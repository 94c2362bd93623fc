/-
Lexical environments, read off the tree of a plan. Each operator that declares locals makes one group of
declarations: a FROM item its AS, AT and BY locals, a LET binding its one local, a GROUP BY clause its
keys and the group. An environment lists the groups that are visible at a place, nearest first, and tells
those of the block itself from those of the blocks around it.

The outline of a plan lists its variables in the order of reading, each with the environment at its place,
and before the variables of a block the block itself.
-/
import NestedQuery.Plan.Vars

namespace NestedQuery

/-! ## Environments -/

namespace Lexical

/-- The groups of declarations visible at a place, nearest first. A name is bound to the groups of its own
block only; those of the blocks around it are left to the time of execution. -/
structure Env where
  block : List (List Declaration)
  outer : List (List Declaration)

namespace Env

/-- Nothing is declared yet. -/
def top : Env := ⟨[], []⟩

/-- The environment at the start of a block inside of this one. -/
def enter (env : Env) : Env := ⟨[], env.block ++ env.outer⟩

/-- The environment after further groups, nearest first. -/
def extend (env : Env) (groups : List (List Declaration)) : Env := ⟨groups ++ env.block, env.outer⟩

/-- The local that a name is bound to: the nearest group with a match, and the first declared match in it. -/
def find? (env : Env) (name : Identifier) : Option Nat :=
  env.block.findSome? fun group => (group.find? fun d => name.names d.name.text).map (·.index)

/-- Every visible local, nearest group first and within a group the last declared first. -/
def candidates (env : Env) : List Nat :=
  (env.block ++ env.outer).flatMap fun group => (group.map (·.index)).reverse

theorem extend_extend (env : Env) (near far : List (List Declaration)) :
    (env.extend far).extend near = env.extend (near ++ far) := by
  simp [extend]

end Env

end Lexical

namespace Plan

open Lexical (Env)

variable {V : Type}

/-! ## What a relation declares -/

/-- The locals of a FROM item in the order of their declarations. -/
def itemGroup (asDecl : Declaration) (atDecl byDecl : Option Declaration) : List Declaration :=
  asDecl :: (atDecl.toList ++ byDecl.toList)

/-- The locals of a GROUP BY clause in the order of their declarations. -/
def keyGroup (keys : List (Named V)) (groupAs : Option Declaration) : List Declaration :=
  keys.map (·.decl) ++ groupAs.toList

/-- The groups that LET bindings make, nearest first. -/
def letGroups (bindings : List (Named V)) : List (List Declaration) :=
  ((bindings.map (·.decl)).map fun d => [d]).reverse

/-- The groups that the rows of a relation bring along, nearest first. The value of a block or of a set
operation brings none. -/
def Relation.groups : Relation V → List (List Declaration)
  | ⟨.unit, _⟩ => []
  | ⟨.scan _ asDecl atDecl byDecl, _⟩ => [itemGroup asDecl atDecl byDecl]
  | ⟨.unpivot _ asDecl atDecl byDecl, _⟩ => [itemGroup asDecl atDecl byDecl]
  | ⟨.filter _ source, _⟩ => source.groups
  | ⟨.join _ left right _, _⟩ => right.groups ++ left.groups
  | ⟨.letting source bindings, _⟩ => letGroups bindings ++ source.groups
  | ⟨.aggregate source keys groupAs, _⟩ => keyGroup keys groupAs :: source.groups
  | ⟨.sort source _, _⟩ => source.groups
  | ⟨.offset source _, _⟩ => source.groups
  | ⟨.limit source _, _⟩ => source.groups
  | ⟨.project .., _⟩ => []
  | ⟨.setOp .., _⟩ => []

/-- The AS locals of the FROM items of a relation, from left to right over the whole join tree. -/
def Relation.itemDecls : Relation V → List Declaration
  | ⟨.unit, _⟩ => []
  | ⟨.scan _ asDecl _ _, _⟩ => [asDecl]
  | ⟨.unpivot _ asDecl _ _, _⟩ => [asDecl]
  | ⟨.filter _ source, _⟩ => source.itemDecls
  | ⟨.join _ left right _, _⟩ => left.itemDecls ++ right.itemDecls
  | ⟨.letting source _, _⟩ => source.itemDecls
  | ⟨.aggregate source _ _, _⟩ => source.itemDecls
  | ⟨.sort source _, _⟩ => source.itemDecls
  | ⟨.offset source _, _⟩ => source.itemDecls
  | ⟨.limit source _, _⟩ => source.itemDecls
  | ⟨.project .., _⟩ => []
  | ⟨.setOp .., _⟩ => []

/-- The locals of the GROUP BY clause of a block, whose rows may since be filtered, sorted and cut. -/
def Relation.groupDecls : Relation V → List Declaration
  | ⟨.aggregate _ keys groupAs, _⟩ => keyGroup keys groupAs
  | ⟨.filter _ source, _⟩ => source.groupDecls
  | ⟨.sort source _, _⟩ => source.groupDecls
  | ⟨.offset source _, _⟩ => source.groupDecls
  | ⟨.limit source _, _⟩ => source.groupDecls
  | _ => []

/-! ## Outlines -/

/-- A variable with the environment at its place, the target of a mutation, or a block. -/
inductive Item (V : Type) where
  | var (env : Env) (var : V)
  | target (var : V)
  | block (source : Relation V) (projection : Projection V)

/-- The variable of an item. -/
def Item.var? : Item V → Option V
  | .var _ v => some v
  | .target v => some v
  | .block .. => none

mutual

def Expr.outline (env : Env) : Expr V → List (Item V)
  | .lit _ => []
  | .var v => [.var env v]
  | .path root steps => root.outline env ++ outlineSteps env steps
  | .unary _ operand => operand.outline env
  | .binary _ lhs rhs => lhs.outline env ++ rhs.outline env
  | .call _ args => outlineList env args
  | .callAgg _ _ arg => arg.outline env
  | .case operand branches otherwise =>
    outlineOption env operand ++ outlineBranches env branches ++ outlineOption env otherwise
  | .collection _ values => outlineList env values
  | .struct fields => outlineFields env fields
  | .cast value _ => value.outline env
  | .query relation => relation.outline env

def outlineList (env : Env) : List (Expr V) → List (Item V)
  | [] => []
  | e :: es => e.outline env ++ outlineList env es

def outlineOption (env : Env) : Option (Expr V) → List (Item V)
  | none => []
  | some e => e.outline env

def outlineSteps (env : Env) : List (PathStep V) → List (Item V)
  | [] => []
  | .key key _ :: steps => key.outline env ++ outlineSteps env steps
  | .wildcard :: steps => outlineSteps env steps
  | .unpivot :: steps => outlineSteps env steps

def outlineBranches (env : Env) : List (CaseBranch V) → List (Item V)
  | [] => []
  | ⟨condition, result⟩ :: branches => condition.outline env ++ result.outline env ++ outlineBranches env branches

def outlineFields (env : Env) : List (StructField V) → List (Item V)
  | [] => []
  | ⟨key, value⟩ :: fields => key.outline env ++ value.outline env ++ outlineFields env fields

/-- The expressions of an operator see what its source declares. The right side of a join sees the left, and
the operands of a set operation see what is around it. -/
def Relation.outline (env : Env) : Relation V → List (Item V)
  | ⟨.unit, _⟩ => []
  | ⟨.scan expr _ _ _, _⟩ => expr.outline env
  | ⟨.unpivot expr _ _ _, _⟩ => expr.outline env
  | ⟨.filter predicate source, _⟩ => source.outline env ++ predicate.outline (env.extend source.groups)
  | ⟨.join _ left right predicate, _⟩ =>
    left.outline env ++ right.outline (env.extend left.groups) ++
      outlineOption (env.extend (right.groups ++ left.groups)) predicate
  | ⟨.letting source bindings, _⟩ => source.outline env ++ outlineLets (env.extend source.groups) bindings
  | ⟨.aggregate source keys _, _⟩ => source.outline env ++ outlineKeys (env.extend source.groups) keys
  | ⟨.sort source keys, _⟩ => source.outline env ++ outlineSortKeys (env.extend source.groups) keys
  | ⟨.offset source rowCount, _⟩ => source.outline env ++ rowCount.outline (env.extend source.groups)
  | ⟨.limit source rowCount, _⟩ => source.outline env ++ rowCount.outline (env.extend source.groups)
  | ⟨.project source projection _, _⟩ =>
    .block source projection ::
      (source.outline env.enter ++ projection.outline (env.enter.extend source.groups))
  | ⟨.setOp _ _ left right, _⟩ => left.outline env ++ right.outline env

/-- Each LET binding sees the ones before it. -/
def outlineLets (env : Env) : List (Named V) → List (Item V)
  | [] => []
  | ⟨expr, decl⟩ :: rest => expr.outline env ++ outlineLets (env.extend [[decl]]) rest

/-- No group key sees the local of another. -/
def outlineKeys (env : Env) : List (Named V) → List (Item V)
  | [] => []
  | ⟨expr, _⟩ :: rest => expr.outline env ++ outlineKeys env rest

def outlineSortKeys (env : Env) : List (SortKey V) → List (Item V)
  | [] => []
  | ⟨expr, _, _⟩ :: rest => expr.outline env ++ outlineSortKeys env rest

def Projection.outline (env : Env) : Projection V → List (Item V)
  | .value expr => expr.outline env
  | .struct items => outlineItems env items
  | .pivot value key => value.outline env ++ key.outline env

def outlineItems (env : Env) : List (ProjectItem V) → List (Item V)
  | [] => []
  | .expr expr _ :: items => expr.outline env ++ outlineItems env items
  | .all expr :: items => expr.outline env ++ outlineItems env items

end

def Mutation.outline (m : Mutation V) : List (Item V) := .target m.target :: m.rows.outline .top

def Statement.outline : Statement V → List (Item V)
  | .query expr => expr.outline .top
  | .dml mutations => mutations.flatMap Mutation.outline
  | .dmlCommands commands => commands.flatMap fun c => c.rows.outline .top
  | .exec _ args => outlineList .top args

/-! ## The variables of an outline -/

/-- The variables of a list of items. -/
def itemVars (items : List (Item V)) : List V := items.filterMap Item.var?

theorem itemVars_append {a b : List (Item V)} {us vs : List V} (ha : itemVars a = us) (hb : itemVars b = vs) :
    itemVars (a ++ b) = us ++ vs := by
  rw [itemVars, List.filterMap_append, ← ha, ← hb]
  rfl

mutual

theorem Expr.itemVars_outline : ∀ (e : Expr V) (env : Env), itemVars (e.outline env) = e.vars
  | .lit _, _ => rfl
  | .var _, _ => rfl
  | .path root steps, env => itemVars_append (root.itemVars_outline env) (itemVars_outlineSteps steps env)
  | .unary _ operand, env => operand.itemVars_outline env
  | .binary _ lhs rhs, env => itemVars_append (lhs.itemVars_outline env) (rhs.itemVars_outline env)
  | .call _ args, env => itemVars_outlineList args env
  | .callAgg _ _ arg, env => arg.itemVars_outline env
  | .case operand branches otherwise, env =>
    itemVars_append (itemVars_append (itemVars_outlineOption operand env) (itemVars_outlineBranches branches env))
      (itemVars_outlineOption otherwise env)
  | .collection _ values, env => itemVars_outlineList values env
  | .struct fields, env => itemVars_outlineFields fields env
  | .cast value _, env => value.itemVars_outline env
  | .query relation, env => relation.itemVars_outline env

theorem itemVars_outlineList : ∀ (es : List (Expr V)) (env : Env), itemVars (outlineList env es) = varsList es
  | [], _ => rfl
  | e :: es, env => itemVars_append (e.itemVars_outline env) (itemVars_outlineList es env)

theorem itemVars_outlineOption : ∀ (e : Option (Expr V)) (env : Env), itemVars (outlineOption env e) = varsOption e
  | none, _ => rfl
  | some e, env => e.itemVars_outline env

theorem itemVars_outlineSteps : ∀ (steps : List (PathStep V)) (env : Env),
    itemVars (outlineSteps env steps) = varsSteps steps
  | [], _ => rfl
  | .key key _ :: steps, env => itemVars_append (key.itemVars_outline env) (itemVars_outlineSteps steps env)
  | .wildcard :: steps, env => itemVars_outlineSteps steps env
  | .unpivot :: steps, env => itemVars_outlineSteps steps env

theorem itemVars_outlineBranches : ∀ (branches : List (CaseBranch V)) (env : Env),
    itemVars (outlineBranches env branches) = varsBranches branches
  | [], _ => rfl
  | ⟨condition, result⟩ :: branches, env =>
    itemVars_append (itemVars_append (condition.itemVars_outline env) (result.itemVars_outline env))
      (itemVars_outlineBranches branches env)

theorem itemVars_outlineFields : ∀ (fields : List (StructField V)) (env : Env),
    itemVars (outlineFields env fields) = varsFields fields
  | [], _ => rfl
  | ⟨key, value⟩ :: fields, env =>
    itemVars_append (itemVars_append (key.itemVars_outline env) (value.itemVars_outline env))
      (itemVars_outlineFields fields env)

theorem Relation.itemVars_outline : ∀ (r : Relation V) (env : Env), itemVars (r.outline env) = r.vars
  | ⟨.unit, _⟩, _ => rfl
  | ⟨.scan expr _ _ _, _⟩, env => expr.itemVars_outline env
  | ⟨.unpivot expr _ _ _, _⟩, env => expr.itemVars_outline env
  | ⟨.filter predicate source, _⟩, env => itemVars_append (source.itemVars_outline env) (predicate.itemVars_outline _)
  | ⟨.join _ left right predicate, _⟩, env =>
    itemVars_append (itemVars_append (left.itemVars_outline env) (right.itemVars_outline _))
      (itemVars_outlineOption predicate _)
  | ⟨.letting source bindings, _⟩, env =>
    itemVars_append (source.itemVars_outline env) (itemVars_outlineLets bindings _)
  | ⟨.aggregate source keys _, _⟩, env =>
    itemVars_append (source.itemVars_outline env) (itemVars_outlineKeys keys _)
  | ⟨.sort source keys, _⟩, env => itemVars_append (source.itemVars_outline env) (itemVars_outlineSortKeys keys _)
  | ⟨.offset source rowCount, _⟩, env => itemVars_append (source.itemVars_outline env) (rowCount.itemVars_outline _)
  | ⟨.limit source rowCount, _⟩, env => itemVars_append (source.itemVars_outline env) (rowCount.itemVars_outline _)
  | ⟨.project source projection _, _⟩, env =>
    itemVars_append (source.itemVars_outline env.enter) (projection.itemVars_outline _)
  | ⟨.setOp _ _ left right, _⟩, env => itemVars_append (left.itemVars_outline env) (right.itemVars_outline env)

theorem itemVars_outlineLets : ∀ (bindings : List (Named V)) (env : Env),
    itemVars (outlineLets env bindings) = varsNamed bindings
  | [], _ => rfl
  | ⟨expr, _⟩ :: rest, env => itemVars_append (expr.itemVars_outline env) (itemVars_outlineLets rest _)

theorem itemVars_outlineKeys : ∀ (keys : List (Named V)) (env : Env), itemVars (outlineKeys env keys) = varsNamed keys
  | [], _ => rfl
  | ⟨expr, _⟩ :: rest, env => itemVars_append (expr.itemVars_outline env) (itemVars_outlineKeys rest env)

theorem itemVars_outlineSortKeys : ∀ (keys : List (SortKey V)) (env : Env),
    itemVars (outlineSortKeys env keys) = varsSortKeys keys
  | [], _ => rfl
  | ⟨expr, _, _⟩ :: rest, env => itemVars_append (expr.itemVars_outline env) (itemVars_outlineSortKeys rest env)

theorem Projection.itemVars_outline : ∀ (p : Projection V) (env : Env), itemVars (p.outline env) = p.vars
  | .value expr, env => expr.itemVars_outline env
  | .struct items, env => itemVars_outlineItems items env
  | .pivot value key, env => itemVars_append (value.itemVars_outline env) (key.itemVars_outline env)

theorem itemVars_outlineItems : ∀ (items : List (ProjectItem V)) (env : Env),
    itemVars (outlineItems env items) = varsItems items
  | [], _ => rfl
  | .expr expr _ :: items, env => itemVars_append (expr.itemVars_outline env) (itemVars_outlineItems items env)
  | .all expr :: items, env => itemVars_append (expr.itemVars_outline env) (itemVars_outlineItems items env)

end

theorem itemVars_flatMap {α : Type} {f : α → List (Item V)} {g : α → List V} (h : ∀ a, itemVars (f a) = g a) :
    ∀ as : List α, itemVars (as.flatMap f) = as.flatMap g
  | [] => rfl
  | a :: as => itemVars_append (h a) (itemVars_flatMap h as)

theorem Mutation.itemVars_outline (m : Mutation V) : itemVars m.outline = m.target :: m.rows.vars :=
  congrArg (m.target :: ·) (m.rows.itemVars_outline .top)

/-- The outline of a statement has all of its variables, in the order of reading. -/
theorem Statement.itemVars_outline : ∀ s : Statement V, itemVars s.outline = s.vars
  | .query expr => expr.itemVars_outline .top
  | .dml mutations => itemVars_flatMap Mutation.itemVars_outline mutations
  | .dmlCommands commands => itemVars_flatMap (fun c => c.rows.itemVars_outline .top) commands
  | .exec _ args => itemVars_outlineList args .top

end Plan

end NestedQuery
