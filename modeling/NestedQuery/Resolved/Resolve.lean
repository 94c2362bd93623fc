/-
Binding the references of a logical plan. What a reference may stand for depends on where it stands:

* the target of a mutation is looked up in the catalog and nowhere else;
* a FROM source is looked up in the catalog and never falls back to a local;
* any other name is looked up among the locals, then in the catalog;
* a name written with `@` is looked up among the locals only, unless it is the target of a mutation.

A name that is not found is left to the time of execution if undefined variables are allowed, but for
the target of a mutation. Otherwise it is reported.
-/
import NestedQuery.Logical.Plan
import NestedQuery.Plan.MapVars
import NestedQuery.Problem
import NestedQuery.Resolved.Plan

namespace NestedQuery

/-- The answers of a catalog: the id of the entity that an identifier names. -/
abbrev Lookup := Identifier → Option String

namespace Resolved

/-- What binding refers to: the locals and frames of the plan, the catalog, and whether undefined
variables are allowed. -/
structure Context where
  scopes : Scope.Tree
  locals : List Local
  catalog : Lookup
  allowUndefined : Bool

/-- The problems reported so far and the questions put to the catalog so far. -/
structure Log where
  problems : List Problem
  questions : List Identifier

abbrev Resolve := StateM Log

/-- Puts a question to the catalog. -/
def ask (c : Context) (name : Identifier) : Resolve (Option Meaning) :=
  modifyGet fun log => ((c.catalog name).map .global, { log with questions := log.questions ++ [name] })

/-- The local that a reference is bound to. -/
def local? (c : Context) (r : Reference) : Option Meaning :=
  (c.scopes.findLocal? c.locals r.name r.scope).map .loc

/-- A reference left to the time of execution, if that is allowed. -/
def dynamic? (c : Context) (r : Reference) (globalsFirst : Bool) : Option Meaning :=
  if c.allowUndefined then some (.dynamic r.name globalsFirst (c.scopes.visibleLocals r.scope)) else none

/-- What a reference stands for. -/
def meaning (c : Context) (r : Reference) : Resolve (Option Meaning) :=
  match r.role, r.qualifier with
  | .dmlTarget, _ => ask c r.name
  | .fromSource, .default => return (← ask c r.name).or (dynamic? c r true)
  | _, .localsOnly => return (local? c r).or (dynamic? c r false)
  | _, .default =>
    match local? c r with
    | some l => return some l
    | none => return (← ask c r.name).or (dynamic? c r false)

def report (p : Problem) : Resolve Unit := modify fun log => { log with problems := log.problems ++ [p] }

/-- Binds a reference; one that stands for nothing is reported. -/
def bind (c : Context) (r : Reference) : Resolve Binding := do
  let found ← meaning c r
  if found.isNone then
    report ⟨r.location, .undefined r.name⟩
  return ⟨r.name, found, r.location⟩

end Resolved

/-- Binds every reference of a plan in the order of reading. The problems are added to the earlier ones,
and the log also has the questions put to the catalog. -/
def LogicalPlan.resolve (p : LogicalPlan) (catalog : Lookup) (allowUndefined : Bool) (earlier : List Problem) :
    ResolvedPlan × Resolved.Log :=
  let context : Resolved.Context := ⟨p.scopes, p.locals, catalog, allowUndefined⟩
  let (statement, log) := (p.statement.mapVarsM (Resolved.bind context)).run ⟨earlier, []⟩
  (⟨statement, p.locals⟩, log)

end NestedQuery
