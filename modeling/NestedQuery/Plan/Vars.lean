/-
The variables and the relations of a plan, in the order in which a plan is read: a node before its
parts, a relation's source before its own expressions, and those from left to right. The target of a
mutation comes before its rows.
-/
import NestedQuery.Plan.Basic

namespace NestedQuery.Plan

variable {V : Type}

/-! ## Variables -/

mutual

def Expr.vars : Expr V → List V
  | .lit _ => []
  | .var v => [v]
  | .path root steps => root.vars ++ varsSteps steps
  | .unary _ operand => operand.vars
  | .binary _ lhs rhs => lhs.vars ++ rhs.vars
  | .call _ args => varsList args
  | .callAgg _ _ arg => arg.vars
  | .case operand branches otherwise => varsOption operand ++ varsBranches branches ++ varsOption otherwise
  | .collection _ values => varsList values
  | .struct fields => varsFields fields
  | .cast value _ => value.vars
  | .query relation => relation.vars

def varsList : List (Expr V) → List V
  | [] => []
  | e :: es => e.vars ++ varsList es

def varsOption : Option (Expr V) → List V
  | none => []
  | some e => e.vars

def varsSteps : List (PathStep V) → List V
  | [] => []
  | .key key _ :: steps => key.vars ++ varsSteps steps
  | .wildcard :: steps => varsSteps steps
  | .unpivot :: steps => varsSteps steps

def varsBranches : List (CaseBranch V) → List V
  | [] => []
  | ⟨condition, result⟩ :: branches => condition.vars ++ result.vars ++ varsBranches branches

def varsFields : List (StructField V) → List V
  | [] => []
  | ⟨key, value⟩ :: fields => key.vars ++ value.vars ++ varsFields fields

def Relation.vars : Relation V → List V
  | ⟨.unit, _⟩ => []
  | ⟨.scan expr _ _ _, _⟩ => expr.vars
  | ⟨.unpivot expr _ _ _, _⟩ => expr.vars
  | ⟨.filter predicate source, _⟩ => source.vars ++ predicate.vars
  | ⟨.join _ left right predicate, _⟩ => left.vars ++ right.vars ++ varsOption predicate
  | ⟨.letting source bindings, _⟩ => source.vars ++ varsNamed bindings
  | ⟨.aggregate source keys _, _⟩ => source.vars ++ varsNamed keys
  | ⟨.sort source keys, _⟩ => source.vars ++ varsSortKeys keys
  | ⟨.offset source rowCount, _⟩ => source.vars ++ rowCount.vars
  | ⟨.limit source rowCount, _⟩ => source.vars ++ rowCount.vars
  | ⟨.project source projection _, _⟩ => source.vars ++ projection.vars
  | ⟨.setOp _ _ left right, _⟩ => left.vars ++ right.vars

def varsNamed : List (Named V) → List V
  | [] => []
  | ⟨expr, _⟩ :: rest => expr.vars ++ varsNamed rest

def varsSortKeys : List (SortKey V) → List V
  | [] => []
  | ⟨expr, _, _⟩ :: rest => expr.vars ++ varsSortKeys rest

def Projection.vars : Projection V → List V
  | .value expr => expr.vars
  | .struct items => varsItems items
  | .pivot value key => value.vars ++ key.vars

def varsItems : List (ProjectItem V) → List V
  | [] => []
  | .expr expr _ :: items => expr.vars ++ varsItems items
  | .all expr :: items => expr.vars ++ varsItems items

end

def Statement.vars : Statement V → List V
  | .query expr => expr.vars
  | .dml mutations => mutations.flatMap fun m => m.target :: m.rows.vars
  | .dmlCommands commands => commands.flatMap fun c => c.rows.vars
  | .exec _ args => varsList args

/-! ## Relations -/

mutual

def Expr.relations : Expr V → List (Relation V)
  | .lit _ => []
  | .var _ => []
  | .path root steps => root.relations ++ relationsSteps steps
  | .unary _ operand => operand.relations
  | .binary _ lhs rhs => lhs.relations ++ rhs.relations
  | .call _ args => relationsList args
  | .callAgg _ _ arg => arg.relations
  | .case operand branches otherwise =>
    relationsOption operand ++ relationsBranches branches ++ relationsOption otherwise
  | .collection _ values => relationsList values
  | .struct fields => relationsFields fields
  | .cast value _ => value.relations
  | .query relation => relation.relations

def relationsList : List (Expr V) → List (Relation V)
  | [] => []
  | e :: es => e.relations ++ relationsList es

def relationsOption : Option (Expr V) → List (Relation V)
  | none => []
  | some e => e.relations

def relationsSteps : List (PathStep V) → List (Relation V)
  | [] => []
  | .key key _ :: steps => key.relations ++ relationsSteps steps
  | .wildcard :: steps => relationsSteps steps
  | .unpivot :: steps => relationsSteps steps

def relationsBranches : List (CaseBranch V) → List (Relation V)
  | [] => []
  | ⟨condition, result⟩ :: branches => condition.relations ++ result.relations ++ relationsBranches branches

def relationsFields : List (StructField V) → List (Relation V)
  | [] => []
  | ⟨key, value⟩ :: fields => key.relations ++ value.relations ++ relationsFields fields

/-- A relation, then the relations inside it. -/
def Relation.relations : Relation V → List (Relation V)
  | ⟨.unit, s⟩ => [⟨.unit, s⟩]
  | ⟨.scan expr a b c, s⟩ => ⟨.scan expr a b c, s⟩ :: expr.relations
  | ⟨.unpivot expr a b c, s⟩ => ⟨.unpivot expr a b c, s⟩ :: expr.relations
  | ⟨.filter predicate source, s⟩ => ⟨.filter predicate source, s⟩ :: source.relations ++ predicate.relations
  | ⟨.join kind left right predicate, s⟩ =>
    ⟨.join kind left right predicate, s⟩ :: left.relations ++ right.relations ++ relationsOption predicate
  | ⟨.letting source bindings, s⟩ => ⟨.letting source bindings, s⟩ :: source.relations ++ relationsNamed bindings
  | ⟨.aggregate source keys g, s⟩ => ⟨.aggregate source keys g, s⟩ :: source.relations ++ relationsNamed keys
  | ⟨.sort source keys, s⟩ => ⟨.sort source keys, s⟩ :: source.relations ++ relationsSortKeys keys
  | ⟨.offset source rowCount, s⟩ => ⟨.offset source rowCount, s⟩ :: source.relations ++ rowCount.relations
  | ⟨.limit source rowCount, s⟩ => ⟨.limit source rowCount, s⟩ :: source.relations ++ rowCount.relations
  | ⟨.project source projection q, s⟩ =>
    ⟨.project source projection q, s⟩ :: source.relations ++ projection.relations
  | ⟨.setOp op q left right, s⟩ => ⟨.setOp op q left right, s⟩ :: left.relations ++ right.relations

def relationsNamed : List (Named V) → List (Relation V)
  | [] => []
  | ⟨expr, _⟩ :: rest => expr.relations ++ relationsNamed rest

def relationsSortKeys : List (SortKey V) → List (Relation V)
  | [] => []
  | ⟨expr, _, _⟩ :: rest => expr.relations ++ relationsSortKeys rest

def Projection.relations : Projection V → List (Relation V)
  | .value expr => expr.relations
  | .struct items => relationsItems items
  | .pivot value key => value.relations ++ key.relations

def relationsItems : List (ProjectItem V) → List (Relation V)
  | [] => []
  | .expr expr _ :: items => expr.relations ++ relationsItems items
  | .all expr :: items => expr.relations ++ relationsItems items

end

def Statement.relations : Statement V → List (Relation V)
  | .query expr => expr.relations
  | .dml mutations => mutations.flatMap fun m => m.rows.relations
  | .dmlCommands commands => commands.flatMap fun c => c.rows.relations
  | .exec _ args => relationsList args

/-- The names of the operators of a statement, in order. -/
def Statement.operatorNames (s : Statement V) : List String := s.relations.map (·.op.name)

/-- Every operator of a statement has a strategy. -/
def Statement.allHaveStrategy (s : Statement V) : Bool := s.relations.all (·.strategy.isSome)

end NestedQuery.Plan
