/-
Statements as they are written: queries over nested data, data mutation and procedure calls.
-/
import NestedQuery.Identifier
import NestedQuery.Keyword
import NestedQuery.Location

namespace NestedQuery.Syntax

/-- A variable as it is written. -/
structure Var where
  name : Identifier
  qualifier : ScopeQualifier := .default
  location : Location := {}
  deriving DecidableEq

/-- The name given to something by AS, AT, BY or GROUP AS. -/
structure Alias where
  name : Identifier
  location : Location := {}
  deriving DecidableEq

mutual

inductive Expr where
  | lit (value : Literal)
  | var (var : Var)
  | path (root : Expr) (steps : List PathStep)
  | unary (op : UnaryOp) (operand : Expr)
  | binary (op : BinaryOp) (lhs rhs : Expr)
  | call (name : String) (args : List Expr)
  | callAgg (name : String) (quantifier : SetQuantifier) (arg : Expr)
  | case (operand : Option Expr) (branches : List CaseBranch) (otherwise : Option Expr)
  | collection (kind : CollectionKind) (values : List Expr)
  | struct (fields : List StructField)
  | cast (value : Expr) (asType : String)
  | select (block : Select)
  | bagOp (op : SetOpKind) (quantifier : SetQuantifier) (left right : Expr)

/-- A step of a path: `.name`, `[key]`, `[*]` or `.*`. -/
inductive PathStep where
  | field (name : Identifier)
  | index (key : Expr)
  | wildcard
  | unpivot

/-- `WHEN condition THEN result`. -/
structure CaseBranch where
  condition : Expr
  result : Expr

/-- `key: value` in a struct. -/
structure StructField where
  key : Expr
  value : Expr

/-- A SELECT block. -/
structure Select where
  quantifier : SetQuantifier
  projection : Projection
  source : Option FromSource
  lets : List LetBinding
  filter : Option Expr
  groupBy : Option GroupBy
  having : Option Expr
  orderBy : List OrderItem
  limit : Option Expr
  offset : Option Expr

/-- `SELECT *`, `SELECT a, b.*`, `SELECT VALUE e` or `PIVOT value AT key`. -/
inductive Projection where
  | star
  | list (items : List SelectItem)
  | value (expr : Expr)
  | pivot (value key : Expr)

inductive SelectItem where
  | expr (expr : Expr) (asAlias : Option Alias)
  | all (expr : Expr)

inductive FromSource where
  | scan (item : FromItem)
  | unpivot (item : FromItem)
  | join (kind : JoinKind) (left right : FromSource) (predicate : Option Expr)

/-- `expr AS a AT b BY c` in a FROM clause. -/
structure FromItem where
  expr : Expr
  asAlias : Option Alias
  atAlias : Option Alias
  byAlias : Option Alias
  location : Location

structure LetBinding where
  expr : Expr
  asAlias : Alias

structure GroupBy where
  keys : List GroupKey
  groupAs : Option Alias

structure GroupKey where
  expr : Expr
  asAlias : Option Alias
  location : Option Location

structure OrderItem where
  expr : Expr
  order : Option SortOrder
  nulls : Option NullsOrder

end

/-! ## Data mutation -/

/-- A step of a path to a part of a row. -/
inductive RowStep where
  | field (name : Identifier)
  | index (key : Expr)

/-- A path to a row or a part of it. -/
structure RowPath where
  root : Var
  steps : List RowStep

/-- `target = value` in a SET clause. -/
structure Assignment where
  target : RowPath
  value : Expr

inductive MutationOp where
  | insert (target : Var) (values : Expr)
  | insertValue (target : Var) (value : Expr) (onConflict : Option OnConflict)
  | set (assignments : List Assignment)
  | remove (path : RowPath)

/-- The collection whose rows a mutation goes through. -/
structure MutationSource where
  target : Var
  asAlias : Option Alias
  atAlias : Option Alias
  byAlias : Option Alias
  filter : Option Expr

/-- A batch of mutations. -/
structure Mutation where
  operations : List MutationOp
  source : Option MutationSource
  location : Location

inductive Statement where
  | query (expr : Expr)
  | dml (mutation : Mutation)
  | exec (procedure : String) (args : List Expr)

/-! ## Parts of a mutation -/

namespace RowPath

/-- The path that is just a variable. -/
def ofVar (root : Var) : RowPath := ⟨root, []⟩

/-- A path with one more step, `.name`. -/
def field (p : RowPath) (name : Identifier) : RowPath := { p with steps := p.steps ++ [.field name] }

/-- A path with one more step, `[key]`. -/
def index (p : RowPath) (key : Expr) : RowPath := { p with steps := p.steps ++ [.index key] }

end RowPath

/-- The variable that stands for a row of the source: the alias, or the target itself without one. -/
def MutationSource.rowVar (s : MutationSource) : Var :=
  match s.asAlias with
  | some a => ⟨a.name, .default, a.location⟩
  | none => s.target

end NestedQuery.Syntax
