/-
The closed choices of the query language: literals, operators, kinds of collections and joins, and the
modifiers of clauses.
-/
import NestedQuery.Double.Basic

namespace NestedQuery

/-- A literal value. -/
inductive Literal where
  | null
  | missing
  | boolean (value : Bool)
  | integer (value : Int64)
  | float (value : Double)
  | string (value : String)
  deriving DecidableEq, Inhabited

inductive BinaryOp where
  | add | sub | mul | div | mod
  | eq | notEq | lt | ltEq | gt | gtEq
  | and | or | concat | like | isIn | is
  deriving DecidableEq, Inhabited

inductive UnaryOp where
  | neg | pos | not
  deriving DecidableEq, Inhabited

inductive CollectionKind where
  | list | bag | sexp
  deriving DecidableEq, Inhabited

inductive JoinKind where
  | inner | left | right | full | cross
  deriving DecidableEq, Inhabited

inductive SetOpKind where
  | union | intersect | except
  deriving DecidableEq, Inhabited

/-- Whether duplicates are kept. -/
inductive SetQuantifier where
  | all | distinct
  deriving DecidableEq, Inhabited

inductive SortOrder where
  | asc | desc
  deriving DecidableEq, Inhabited

inductive NullsOrder where
  | first | last
  deriving DecidableEq, Inhabited

/-- Where a reference may look: anywhere, or among the locals of the statement alone (written `@name`). -/
inductive ScopeQualifier where
  | default
  | localsOnly
  deriving DecidableEq, Inhabited

/-- What an insertion does when the row is already there. -/
inductive OnConflict where
  | doReplaceExcluded | doUpdateExcluded | doNothing
  deriving DecidableEq, Inhabited

end NestedQuery
