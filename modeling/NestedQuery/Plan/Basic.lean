/-
Plans: statements as trees of operators. `V` is what a variable carries, a reference in a logical plan
and a binding in a resolved one. An expression gives a value; a relation gives a stream of rows, each
row a binding of locals.
-/
import NestedQuery.Reference

namespace NestedQuery.Plan

variable {V : Type}

/-- The way an operator is executed, by name. -/
structure Strategy where
  name : String
  deriving DecidableEq

/-- The strategy that every engine knows. -/
def Strategy.default : Strategy := ⟨"default"⟩

def Strategy.isDefault (s : Strategy) : Bool := s == .default

mutual

inductive Expr (V : Type) where
  | lit (value : Literal)
  | var (var : V)
  | path (root : Expr V) (steps : List (PathStep V))
  | unary (op : UnaryOp) (operand : Expr V)
  | binary (op : BinaryOp) (lhs rhs : Expr V)
  | call (name : String) (args : List (Expr V))
  | callAgg (name : String) (quantifier : SetQuantifier) (arg : Expr V)
  | case (operand : Option (Expr V)) (branches : List (CaseBranch V)) (otherwise : Option (Expr V))
  | collection (kind : CollectionKind) (values : List (Expr V))
  | struct (fields : List (StructField V))
  | cast (value : Expr V) (asType : String)
  | query (relation : Relation V)

/-- A step of a path. The case rule says how a key that is a string finds a field. -/
inductive PathStep (V : Type) where
  | key (key : Expr V) (case : CaseRule)
  | wildcard
  | unpivot

structure CaseBranch (V : Type) where
  condition : Expr V
  result : Expr V

structure StructField (V : Type) where
  key : Expr V
  value : Expr V

/-- An operator and the way it is executed, once that is chosen. -/
structure Relation (V : Type) where
  op : RelOp V
  strategy : Option Strategy

inductive RelOp (V : Type) where
  /-- One row that binds nothing. -/
  | unit
  /-- The elements of a collection. -/
  | scan (expr : Expr V) (asDecl : Declaration) (atDecl byDecl : Option Declaration)
  /-- The fields of a struct. -/
  | unpivot (expr : Expr V) (asDecl : Declaration) (atDecl byDecl : Option Declaration)
  | filter (predicate : Expr V) (source : Relation V)
  /-- The right side may refer to the left. -/
  | join (kind : JoinKind) (left right : Relation V) (predicate : Option (Expr V))
  | letting (source : Relation V) (bindings : List (Named V))
  | aggregate (source : Relation V) (keys : List (Named V)) (groupAs : Option Declaration)
  | sort (source : Relation V) (keys : List (SortKey V))
  | offset (source : Relation V) (rowCount : Expr V)
  | limit (source : Relation V) (rowCount : Expr V)
  /-- The value made of each row. -/
  | project (source : Relation V) (projection : Projection V) (quantifier : SetQuantifier)
  | setOp (op : SetOpKind) (quantifier : SetQuantifier) (left right : Expr V)

/-- An expression and the local that holds its value. -/
structure Named (V : Type) where
  expr : Expr V
  decl : Declaration

structure SortKey (V : Type) where
  expr : Expr V
  order : Option SortOrder
  nulls : Option NullsOrder

inductive Projection (V : Type) where
  | value (expr : Expr V)
  | struct (items : List (ProjectItem V))
  | pivot (value key : Expr V)

inductive ProjectItem (V : Type) where
  | expr (expr : Expr V) (field : String)
  /-- All fields of a value. -/
  | all (expr : Expr V)

end

/-! ## Statements -/

/-- What a mutation does with its rows. -/
inductive Action where
  | insert | delete | replace | update
  deriving DecidableEq, Inhabited

def Action.name : Action → String
  | .insert => "insert"
  | .delete => "delete"
  | .replace => "replace"
  | .update => "update"

/-- A mutation of the collection that `target` stands for. -/
structure Mutation (V : Type) where
  action : Action
  target : V
  rows : Expr V

/-- A mutation as an engine takes it: the action by name and the collection by its catalog id. -/
structure Command (V : Type) where
  action : String
  targetId : String
  rows : Expr V

inductive Statement (V : Type) where
  | query (expr : Expr V)
  | dml (mutations : List (Mutation V))
  | dmlCommands (commands : List (Command V))
  | exec (procedure : String) (args : List (Expr V))

/-! ## Constructions -/

namespace Expr

/-- The constant without rows, `<<>>`. -/
def emptyBag : Expr V := .collection .bag []

/-- The constant with one row, `<<value>>`. -/
def singletonBag (value : Expr V) : Expr V := .collection .bag [value]

def string (s : String) : Expr V := .lit (.string s)

end Expr

/-- An operator whose strategy is still to be chosen. -/
def Relation.of (op : RelOp V) : Relation V := ⟨op, none⟩

/-- The name of an operator. -/
def RelOp.name : RelOp V → String
  | .unit => "unit"
  | .scan .. => "scan"
  | .unpivot .. => "unpivot"
  | .filter .. => "filter"
  | .join .. => "join"
  | .letting .. => "let"
  | .aggregate .. => "aggregate"
  | .sort .. => "sort"
  | .offset .. => "offset"
  | .limit .. => "limit"
  | .project .. => "project"
  | .setOp .. => "set_op"

/-- A command as an expression: a struct with the fields action, target id and rows. -/
def Command.toStruct (c : Command V) : Expr V :=
  .struct [⟨.string "action", .string c.action⟩, ⟨.string "target_unique_id", .string c.targetId⟩,
    ⟨.string "rows", c.rows⟩]

/-- The commands of a statement; only a lowered mutation has any. -/
def Statement.commands : Statement V → List (Command V)
  | .dmlCommands commands => commands
  | _ => []

end NestedQuery.Plan
