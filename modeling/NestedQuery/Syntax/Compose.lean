/-
Writing statements by hand: short forms of expressions, and clauses added to a SELECT block or a
mutation one by one.
-/
import NestedQuery.Syntax.Naming

namespace NestedQuery.Syntax

/-! ## Expressions -/

/-- A bare variable at a place. -/
def Var.bare (name : String) (location : Location) : Var := ⟨.bare name, .default, location⟩

/-- A variable between quotes at a place. -/
def Var.quoted (name : String) (location : Location) : Var := ⟨.quoted name, .default, location⟩

/-- A variable written with `@` at a place. -/
def Var.localOnly (name : String) (location : Location) : Var := ⟨.bare name, .localsOnly, location⟩

/-- A bare alias at a place. -/
def Alias.bare (name : String) (location : Location) : Alias := ⟨.bare name, location⟩

namespace Expr

def bare (name : String) (location : Location) : Expr := .var (.bare name location)

def quoted (name : String) (location : Location) : Expr := .var (.quoted name location)

def localOnly (name : String) (location : Location) : Expr := .var (.localOnly name location)

def int (value : Int64) : Expr := .lit (.integer value)

def string (value : String) : Expr := .lit (.string value)

/-- `root.a.b` for the fields `a` and `b`. -/
def fields (root : Expr) (names : List String) : Expr := .path root (names.map fun n => .field (.bare n))

/-- `root.*`. -/
def unpivoted (root : Expr) : Expr := .path root [.unpivot]

def equals (lhs rhs : Expr) : Expr := .binary .eq lhs rhs

end Expr

/-- `name.a.b` for the fields `a` and `b`, as a path to a part of a row. -/
def RowPath.ofFields (root : Var) (names : List String) : RowPath :=
  names.foldl (fun path name => path.field (.bare name)) (.ofVar root)

/-! ## FROM sources -/

namespace FromSource

def cross (left right : FromSource) : FromSource := .join .cross left right none

/-- Sources between commas: cross joins from the left. -/
def commas : List FromSource → Option FromSource
  | [] => none
  | first :: rest => some (rest.foldl cross first)

end FromSource

/-! ## SELECT blocks -/

namespace Select

/-- A block without any clause. -/
def ofProjection (projection : Projection) : Select :=
  ⟨.all, projection, none, [], none, none, none, [], none, none⟩

def addFrom (s : Select) (source : FromSource) : Select := { s with source := some source }

def addLet (s : Select) (expr : Expr) (asAlias : Alias) : Select := { s with lets := s.lets ++ [⟨expr, asAlias⟩] }

def addWhere (s : Select) (predicate : Expr) : Select := { s with filter := some predicate }

/-- Each key is located at its first variable. -/
def addGroupBy (s : Select) (keys : List (Expr × Option Alias)) (groupAs : Option Alias) : Select :=
  { s with groupBy := some ⟨keys.map fun (expr, asAlias) => ⟨expr, asAlias, expr.firstVar?⟩, groupAs⟩ }

def addHaving (s : Select) (predicate : Expr) : Select := { s with having := some predicate }

def addOrderBy (s : Select) (expr : Expr) : Select := { s with orderBy := s.orderBy ++ [⟨expr, none, none⟩] }

def addLimit (s : Select) (expr : Expr) : Select := { s with limit := some expr }

def addOffset (s : Select) (expr : Expr) : Select := { s with offset := some expr }

def toStatement (s : Select) : Statement := .query (.select s)

end Select

/-! ## Mutations -/

/-- A clause that has to come after the source of its mutation. -/
inductive MissingSource where
  | filter
  | delete
  deriving DecidableEq

def MissingSource.message : MissingSource → String
  | .filter => "WHERE needs a DML source"
  | .delete => "DELETE needs a DML source"

namespace Mutation

/-- A mutation that does nothing yet, at the start of a text. -/
def empty : Mutation := ⟨[], none, ⟨1, 1⟩⟩

def addSource (m : Mutation) (target : Var) (asAlias : Option Alias) : Mutation :=
  { m with source := some ⟨target, asAlias, none, none, none⟩ }

/-- Adds the WHERE clause of the source. -/
def addWhere (m : Mutation) (predicate : Expr) : Except MissingSource Mutation :=
  match m.source with
  | some source => .ok { m with source := some { source with filter := some predicate } }
  | none => .error .filter

def addOp (m : Mutation) (op : MutationOp) : Mutation := { m with operations := m.operations ++ [op] }

/-- Adds the removal of each row of the source. -/
def addDelete (m : Mutation) : Except MissingSource Mutation :=
  match m.source with
  | some source => .ok (m.addOp (.remove (.ofVar source.rowVar)))
  | none => .error .delete

def toStatement (m : Mutation) : Statement := .dml m

end Mutation

end NestedQuery.Syntax
