/-
JSON values. An object keeps its members in the order they were written, repeated names included, and a
number is either an integer of at most sixty-four bits or a double, as its text decides. Text may be well
formed and still spell no value; such a part may stand only where nobody looks at it.
-/
import NestedQuery.Double.Basic

namespace NestedQuery

inductive Json where
  | null
  | bool (value : Bool)
  | int (value : Int)
  | float (value : Double)
  | str (value : String)
  | arr (items : List Json)
  | obj (members : List (String × Json))
  /-- A part that has no value, such as a number too large for a double. -/
  | unreadable
  deriving Inhabited

namespace Json

/-! ## Equality -/

mutual

/-- Equality of values: members in order, numbers by kind and bits. -/
def same : Json → Json → Bool
  | .null, .null => true
  | .bool a, .bool b => a == b
  | .int a, .int b => a == b
  | .float a, .float b => a == b
  | .str a, .str b => a == b
  | .arr as, .arr bs => sameItems as bs
  | .obj as, .obj bs => sameMembers as bs
  | .unreadable, .unreadable => true
  | _, _ => false

def sameItems : List Json → List Json → Bool
  | [], [] => true
  | a :: as, b :: bs => same a b && sameItems as bs
  | _, _ => false

def sameMembers : List (String × Json) → List (String × Json) → Bool
  | [], [] => true
  | (k, a) :: as, (l, b) :: bs => k == l && same a b && sameMembers as bs
  | _, _ => false

end

/-! ## Nesting -/

mutual

/-- How deeply arrays and objects nest; a scalar has depth zero. -/
def depth : Json → Nat
  | .arr items => depthItems items + 1
  | .obj members => depthMembers members + 1
  | _ => 0

def depthItems : List Json → Nat
  | [] => 0
  | item :: items => max (depth item) (depthItems items)

def depthMembers : List (String × Json) → Nat
  | [] => 0
  | (_, value) :: members => max (depth value) (depthMembers members)

end

mutual

/-- Arrays and objects that stand deeper than `levels` become unreadable. -/
def capDepth : Nat → Json → Json
  | 0, .arr _ => .unreadable
  | 0, .obj _ => .unreadable
  | levels + 1, .arr items => .arr (capItems levels items)
  | levels + 1, .obj members => .obj (capMembers levels members)
  | _, j => j

def capItems (levels : Nat) : List Json → List Json
  | [] => []
  | item :: items => capDepth levels item :: capItems levels items

def capMembers (levels : Nat) : List (String × Json) → List (String × Json)
  | [] => []
  | (name, value) :: members => (name, capDepth levels value) :: capMembers levels members

end

/-! ## Views -/

def ofOption {α : Type} (write : α → Json) : Option α → Json
  | none => .null
  | some a => write a

def ofList {α : Type} (write : α → Json) (items : List α) : Json := .arr (items.map write)

def ofNat (n : Nat) : Json := .int n

/-- The value of a member of an object; the last one counts when a name is repeated. -/
def member? (name : String) : Json → Option Json
  | .obj members => (members.reverse.find? (·.1 == name)).map (·.2)
  | _ => none

end Json

end NestedQuery
