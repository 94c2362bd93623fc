/-
YAML documents as trees: scalars with the style they were written in, sequences, and mappings. A mapping
keeps its entries in order, repeated keys included, and every node can be a key. A node that is anchored
may stand in other places as a link.
-/
namespace NestedQuery.Yaml

/-! ## Tags -/

/-- A tag as its octets: those that are written as escapes need not spell a text. -/
structure Tag where
  octets : List UInt8
  deriving DecidableEq

namespace Tag

def ofText (text : String) : Tag := ⟨text.toUTF8.data.toList⟩

/-- The tag of the null value. -/
def null : Tag := ofText "tag:yaml.org,2002:null"

def text? (t : Tag) : Option String := String.fromUTF8? ⟨t.octets.toArray⟩

/-- The name that a local tag gives: what follows its mark, or the mark if nothing does. -/
def localName? (t : Tag) : Option String := do
  let text ← t.text?
  match text.toList with
  | ['!'] => some "!"
  | '!' :: name => some (String.ofList name)
  | _ => none

end Tag

/-! ## Nodes -/

inductive Node where
  /-- A scalar, plain or in one of the other styles. -/
  | scalar (tag : Option Tag) (plain : Bool) (text : String)
  | seq (items : List Node)
  | map (entries : List (Node × Node))
  /-- The node with the given number among the anchored ones. -/
  | link (number : Nat)
  deriving Inhabited

namespace Node

/-- What stands where nothing is written. -/
def empty : Node := .scalar none true ""

def isLink : Node → Bool
  | .link _ => true
  | _ => false

/-- The text of a scalar of any style. -/
def text? : Node → Option String
  | .scalar _ _ text => some text
  | _ => none

/-- The words for the null value. -/
def nullWords : List String := ["null", "Null", "NULL", "~"]

/-- A text, or nothing: a plain scalar is nothing when it is empty or a word for null. A tag other than
that of null makes it a text all the same, and under the tag of null it has to be such a word. -/
def optionalText? : Node → Option (Option String)
  | .scalar _ false text => some (some text)
  | .scalar none true text => some (if text.isEmpty || nullWords.contains text then none else some text)
  | .scalar (some tag) true text =>
    if tag != Tag.null then some (some text) else if nullWords.contains text then some none else none
  | _ => none

/-- One of some names: the text of a scalar, or its local tag if it has no other content. -/
def choice? (names : List String) : Node → Option String
  | .scalar tag plain text =>
    let name := match tag.bind Tag.localName? with
      | none => some text
      | some name => if plain && (text.isEmpty || nullWords.contains text) then some name else none
    name.filter names.contains
  | _ => none

mutual

/-- The number of parts of a node: scalars, links, and the two ends of each collection. -/
def parts : Node → Nat
  | .scalar .. | .link _ => 1
  | .seq items => partsOfItems items + 2
  | .map entries => partsOfEntries entries + 2

def partsOfItems : List Node → Nat
  | [] => 0
  | item :: items => item.parts + partsOfItems items

def partsOfEntries : List (Node × Node) → Nat
  | [] => 0
  | (key, value) :: entries => key.parts + value.parts + partsOfEntries entries

end

end Node

end NestedQuery.Yaml
