/-
The declarations inside a plan, in the order in which they are made: those inside the source of a FROM item
before its own, those inside a LET value before that of the binding, and those inside all keys of a group
before those of the keys and of the group. Elsewhere an operator's source comes before its expressions.
-/
import NestedQuery.Proofs.Lexical.Environment

namespace NestedQuery.Plan

variable {V : Type}

mutual

def Expr.decls : Expr V → List Declaration
  | .lit _ => []
  | .var _ => []
  | .path root steps => root.decls ++ declsSteps steps
  | .unary _ operand => operand.decls
  | .binary _ lhs rhs => lhs.decls ++ rhs.decls
  | .call _ args => declsList args
  | .callAgg _ _ arg => arg.decls
  | .case operand branches otherwise => declsOption operand ++ declsBranches branches ++ declsOption otherwise
  | .collection _ values => declsList values
  | .struct fields => declsFields fields
  | .cast value _ => value.decls
  | .query relation => relation.decls

def declsList : List (Expr V) → List Declaration
  | [] => []
  | e :: es => e.decls ++ declsList es

def declsOption : Option (Expr V) → List Declaration
  | none => []
  | some e => e.decls

def declsSteps : List (PathStep V) → List Declaration
  | [] => []
  | .key key _ :: steps => key.decls ++ declsSteps steps
  | .wildcard :: steps => declsSteps steps
  | .unpivot :: steps => declsSteps steps

def declsBranches : List (CaseBranch V) → List Declaration
  | [] => []
  | ⟨condition, result⟩ :: branches => condition.decls ++ result.decls ++ declsBranches branches

def declsFields : List (StructField V) → List Declaration
  | [] => []
  | ⟨key, value⟩ :: fields => key.decls ++ value.decls ++ declsFields fields

def Relation.decls : Relation V → List Declaration
  | ⟨.unit, _⟩ => []
  | ⟨.scan expr asDecl atDecl byDecl, _⟩ => expr.decls ++ itemGroup asDecl atDecl byDecl
  | ⟨.unpivot expr asDecl atDecl byDecl, _⟩ => expr.decls ++ itemGroup asDecl atDecl byDecl
  | ⟨.filter predicate source, _⟩ => source.decls ++ predicate.decls
  | ⟨.join _ left right predicate, _⟩ => left.decls ++ right.decls ++ declsOption predicate
  | ⟨.letting source bindings, _⟩ => source.decls ++ declsLets bindings
  | ⟨.aggregate source keys groupAs, _⟩ => source.decls ++ (declsKeys keys ++ keyGroup keys groupAs)
  | ⟨.sort source keys, _⟩ => source.decls ++ declsSortKeys keys
  | ⟨.offset source rowCount, _⟩ => source.decls ++ rowCount.decls
  | ⟨.limit source rowCount, _⟩ => source.decls ++ rowCount.decls
  | ⟨.project source projection _, _⟩ => source.decls ++ projection.decls
  | ⟨.setOp _ _ left right, _⟩ => left.decls ++ right.decls

def declsLets : List (Named V) → List Declaration
  | [] => []
  | ⟨expr, decl⟩ :: rest => expr.decls ++ decl :: declsLets rest

/-- The declarations inside the expressions of group keys, without those of the keys themselves. -/
def declsKeys : List (Named V) → List Declaration
  | [] => []
  | ⟨expr, _⟩ :: rest => expr.decls ++ declsKeys rest

def declsSortKeys : List (SortKey V) → List Declaration
  | [] => []
  | ⟨expr, _, _⟩ :: rest => expr.decls ++ declsSortKeys rest

def Projection.decls : Projection V → List Declaration
  | .value expr => expr.decls
  | .struct items => declsItems items
  | .pivot value key => value.decls ++ key.decls

def declsItems : List (ProjectItem V) → List Declaration
  | [] => []
  | .expr expr _ :: items => expr.decls ++ declsItems items
  | .all expr :: items => expr.decls ++ declsItems items

end

def Statement.decls : Statement V → List Declaration
  | .query expr => expr.decls
  | .dml mutations => mutations.flatMap fun m => m.rows.decls
  | .dmlCommands commands => commands.flatMap fun c => c.rows.decls
  | .exec _ args => declsList args

end NestedQuery.Plan
