/-
Variables of a statement on their way from a name to what the name stands for: declarations and the
locals they make, references that are still to be bound, and bindings.
-/
import NestedQuery.Identifier
import NestedQuery.Keyword
import NestedQuery.Location

namespace NestedQuery

/-! ## Declarations -/

/-- A local variable of a statement. Locals are numbered in the order of their declarations. -/
structure Local where
  name : Identifier
  index : Nat
  deriving DecidableEq

/-- The declaration of a local inside an operator. -/
structure Declaration where
  name : Identifier
  index : Nat
  location : Location
  deriving DecidableEq

/-- The local that a declaration makes. -/
def Declaration.toLocal (d : Declaration) : Local := ⟨d.name, d.index⟩

/-! ## References -/

/-- Where a reference stands. -/
inductive Role where
  /-- In an expression. -/
  | expression
  /-- It is the whole source of a FROM item. -/
  | fromSource
  /-- It is the collection that a mutation changes. -/
  | dmlTarget
  deriving DecidableEq, Inhabited

/-- A reference that is still to be bound, and the frame from which it looks. -/
structure Reference where
  name : Identifier
  qualifier : ScopeQualifier
  role : Role
  scope : Nat
  location : Location
  deriving DecidableEq

/-- The reference that a statement itself makes to one of its locals: it looks for the exact name and
among locals only. -/
def Declaration.reference (d : Declaration) (scope : Nat) : Reference :=
  ⟨.quoted d.name.text, .localsOnly, .expression, scope, d.location⟩

/-! ## Bindings -/

/-- What a reference stands for. -/
inductive Meaning where
  /-- An entity of the catalog, by its id. -/
  | global (id : String)
  /-- A local, by its number. -/
  | loc (index : Nat)
  /-- Left to the time of execution, with the locals to try, nearest first. -/
  | dynamic (name : Identifier) (globalsFirst : Bool) (candidates : List Nat)
  deriving DecidableEq

/-- A reference after binding. It has no meaning when nothing was found for it. -/
structure Binding where
  name : Identifier
  meaning : Option Meaning
  location : Location
  deriving DecidableEq

namespace Binding

def isResolved (b : Binding) : Bool := b.meaning.isSome

def globalId? (b : Binding) : Option String :=
  match b.meaning with
  | some (.global id) => some id
  | _ => none

def localIndex? (b : Binding) : Option Nat :=
  match b.meaning with
  | some (.loc index) => some index
  | _ => none

end Binding

end NestedQuery
