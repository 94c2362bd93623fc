/-
Reading typed data from JSON. A record is an object of its fields, or an array of them in the order of
their declaration; a choice is the bare name of an alternative, or an object whose one member is named
for it and holds its content.
-/
import NestedQuery.Json.Basic

namespace NestedQuery

/-- Reads a value of type `α`, or refuses. -/
abbrev Decoder (α : Type) := Json → Option α

variable {α : Type}

namespace Decoder

def string : Decoder String
  | .str s => some s
  | _ => none

def bool : Decoder Bool
  | .bool b => some b
  | _ => none

/-- An integer from zero up to, but not including, `bound`. -/
def natBelow (bound : Nat) : Decoder Nat
  | .int n => if 0 ≤ n && n < bound then some n.toNat else none
  | _ => none

/-- A number of at most 32 bits, such as an index. -/
def index : Decoder Nat := natBelow 0x100000000

def uint32 : Decoder UInt32 := fun j => (index j).map (·.toUInt32)

def int64 : Decoder Int64
  | .int n => if -0x8000000000000000 ≤ n && n < 0x8000000000000000 then some (Int64.ofInt n) else none
  | _ => none

/-- A double; an integer stands for the double nearest to it. -/
def double : Decoder Double
  | .float x => some x
  | .int n => Double.ofDecimal? (n < 0) n.natAbs 0
  | _ => none

def list (item : Decoder α) : Decoder (List α)
  | .arr items => items.mapM item
  | _ => none

/-- A value, or null for none. -/
def nullable (value : Decoder α) : Decoder (Option α)
  | .null => some none
  | j => (value j).map some

end Decoder

namespace Json

/-! ## Records -/

/-- The fields found for a record. In the positional form no field may be missing but those that have a
default. -/
structure Record where
  positional : Bool
  fields : List (String × Json)

/-- The fields of a record with the given field names. In an object other members are skipped and a
field may not be repeated; an array may not be too long. -/
def record? (names : List String) : Json → Option Record
  | .obj members =>
    let fields := members.filter (names.contains ·.1)
    if (fields.map (·.1)).Nodup then some ⟨false, fields⟩ else none
  | .arr items => if items.length ≤ names.length then some ⟨true, names.zip items⟩ else none
  | _ => none

namespace Record

def field? (r : Record) (name : String) : Option Json := (r.fields.find? (·.1 == name)).map (·.2)

/-- A field that has to be there. -/
def required (r : Record) (name : String) (value : Decoder α) : Option α := r.field? name >>= value

/-- A field that may be null, and may be missing from an object. -/
def nullable (r : Record) (name : String) (value : Decoder α) : Option (Option α) :=
  match r.field? name with
  | some j => value.nullable j
  | none => if r.positional then none else some none

/-- A field that may be missing. -/
def withDefault (r : Record) (name : String) (default : α) (value : Decoder α) : Option α :=
  match r.field? name with
  | some j => value j
  | none => some default

/-- A field that may be null or missing. -/
def optional (r : Record) (name : String) (value : Decoder α) : Option (Option α) :=
  r.withDefault name none value.nullable

end Record

/-! ## Choices -/

/-- Where a value comes from: a document, or the memory of a program. -/
inductive Form where
  | document
  | value
  deriving DecidableEq

/-- The fields of a record that is the content of an alternative. Only in a document may they be given
by position. -/
def content? (form : Form) (names : List String) : Json → Option Record
  | .arr items => if form = .document then record? names (.arr items) else none
  | j => record? names j

/-- The name and the content of an alternative. -/
structure Choice where
  name : String
  content : Option Json

def choice? : Json → Option Choice
  | .str name => some ⟨name, none⟩
  | .obj [(name, content)] => some ⟨name, some content⟩
  | _ => none

/-- An alternative without content has none, or null. -/
def Choice.isBare (c : Choice) : Bool :=
  match c.content with
  | none | some .null => true
  | _ => false

/-- One of a list of bare alternatives, each known by its name. -/
def oneOf? (values : List α) (name : α → String) (j : Json) : Option α := do
  let choice ← j.choice?
  let value ← values.find? (name · == choice.name)
  if choice.isBare then some value else none

end Json

end NestedQuery
