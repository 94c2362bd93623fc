/-
Compiling a statement: plan it, bind its references, and make the plan ready for execution. Problems are
collected on the way. A strict compilation gives nothing when there are any.
-/
import NestedQuery.Catalog.Basic
import NestedQuery.Config
import NestedQuery.Logical.Build
import NestedQuery.Physical.Lower
import NestedQuery.Resolved.Resolve

namespace NestedQuery

/-- What comes of a statement. There is no physical plan when the target of a mutation is unknown. -/
structure Compilation where
  resolved : Plan.Statement Binding
  locals : List Local
  physical : Option (Plan.Statement Binding)
  problems : List Problem

namespace Compilation

def hasProblems (c : Compilation) : Bool := !c.problems.isEmpty

/-- The physical plan can be handed to an engine. -/
def isExecutable (c : Compilation) : Bool := c.physical.isSome && c.problems.isEmpty

end Compilation

/-- Why there is no compilation. -/
inductive CompileError where
  | problems (problems : List Problem)
  | lowering (error : LoweringError)
  | config (error : ConfigError)
  | catalog (error : CatalogError)

namespace CompileError

def message : CompileError → String
  | .problems ps =>
    "Compilation reported " ++ toString ps.length ++ " problem(s): " ++
      String.intercalate "; " (ps.map (·.message))
  | .lowering e => "Physical lowering failed: " ++ e.message
  | .config e => "Invalid configuration: " ++ e.message
  | .catalog e => "Catalog error: " ++ e.message

/-- The problems that an error carries. -/
def problemList : CompileError → List Problem
  | .problems ps => ps
  | _ => []

end CompileError

/-- A catalog, settings, and the strategy of operators that have none. -/
structure Compiler where
  catalog : Lookup
  config : Config := {}
  strategy : Plan.Strategy := .default

namespace Compiler

/-- A compiler with the given settings, unless they contradict each other. -/
def ofConfig (catalog : Lookup) (config : Config) : Except CompileError Compiler :=
  match config.validate with
  | .ok () => .ok { catalog, config }
  | .error e => .error (.config e)

/-- The resolved plan of a statement, with the problems and the questions put to the catalog. -/
def analyse (c : Compiler) (s : Syntax.Statement) : ResolvedPlan × Resolved.Log :=
  let (plan, problems) := LogicalPlan.build s
  plan.resolve c.catalog c.config.allowUndefined problems

/-- Compiles a statement and collects its problems. -/
def compile (c : Compiler) (s : Syntax.Statement) : Compilation :=
  let (plan, log) := c.analyse s
  let physical := match plan.lower c.strategy with
    | .ok lowered => some lowered.statement
    | .error _ => none
  ⟨plan.statement, plan.locals, physical, log.problems⟩

/-- Compiles a statement that may have no problems. -/
def compileStrict (c : Compiler) (s : Syntax.Statement) : Except CompileError Compilation :=
  let (plan, log) := c.analyse s
  if log.problems.isEmpty then
    match plan.lower c.strategy with
    | .ok lowered => .ok ⟨plan.statement, lowered.locals, some lowered.statement, []⟩
    | .error e => .error (.lowering e)
  else .error (.problems log.problems)

/-- Compiles a statement as the settings say. -/
def run (c : Compiler) (s : Syntax.Statement) : Except CompileError Compilation :=
  if c.config.strict then c.compileStrict s else .ok (c.compile s)

end Compiler

end NestedQuery
