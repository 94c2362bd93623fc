/-
Anchors, tags and directives of YAML. A tag is written as a local name, with a handle that stands for
the start of the tag, or in full between angle brackets. A directive says the version of the language, or
what a handle stands for.
-/
import NestedQuery.Text.Hex
import NestedQuery.Yaml.Spot

namespace NestedQuery.Yaml

/-- The characters of anchors, handles and the names of directives. -/
def isWordChar (c : Char) : Bool := c.isAlphanum || c == '_' || c == '-'

/-! ## Anchors -/

/-- The name of an anchor or of a link, behind its mark. -/
def anchorName? (spots : List Spot) : Option (String × List Spot) :=
  let (name, rest) := run isWordChar spots
  if !name.isEmpty && (gapNext rest || nextAmong "?:,]\x7d%@`" rest) then some (String.ofList name, rest)
  else none

/-! ## Tags -/

/-- A tag as it is written: what its handle stands for comes before the suffix. The empty handle stands for
nothing. -/
structure TagText where
  handle : String
  suffix : List UInt8

/-- The octets that have to follow an octet, `due` being those that were to follow before it. -/
def octetsDue? (due octet : Nat) : Option Nat :=
  if due ≠ 0 then if octet / 64 = 2 then some (due - 1) else none
  else if octet < 0x80 then some 0
  else if octet / 32 = 6 then some 1
  else if octet / 16 = 14 then some 2
  else if octet / 8 = 30 then some 3
  else none

/-- A character of a tag; flow marks are among them only in full tags. -/
def isTagChar (full : Bool) (c : Char) : Bool :=
  isWordChar c || ";/?:@&=+$.!~*'()".toList.contains c || (full && ",[]".toList.contains c)

/-- What is being read in a tag: characters, or the two digits of an escaped octet. -/
inductive Percent where
  | none
  | first
  | second (high : Nat)

/-- The octets of a part of a tag, as far as it goes. -/
def tagOctets? (full : Bool) (due : Nat) (seen : List UInt8) :
    Percent → List Spot → Option (List UInt8 × List Spot)
  | .none, [] => if due = 0 then some (seen.reverse, []) else Option.none
  | _, [] => Option.none
  | .none, s :: rest =>
    if s.char == '%' then tagOctets? full due seen .first rest
    else if due ≠ 0 then Option.none
    else if isTagChar full s.char then tagOctets? full 0 (UInt8.ofNat s.char.toNat :: seen) .none rest
    else some (seen.reverse, s :: rest)
  | .first, s :: rest => do
    let high ← Text.hexValue? s.char
    tagOctets? full due seen (.second high) rest
  | .second high, s :: rest => do
    let low ← Text.hexValue? s.char
    let octet := 16 * high + low
    let due ← octetsDue? due octet
    tagOctets? full due (UInt8.ofNat octet :: seen) .none rest

/-- A part of a tag that may not be missing. A zero octet ends what counts of it. -/
def tagPart? (full : Bool) (spots : List Spot) : Option (List UInt8 × List Spot) := do
  let (octets, rest) ← tagOctets? full 0 [] .none spots
  if octets.isEmpty then none else return (octets.takeWhile (· != 0), rest)

/-- A tag in full, behind its angle bracket. -/
def fullTag? (spots : List Spot) : Option (TagText × List Spot) := do
  let (octets, rest) ← tagPart? true spots
  if next '>' rest then return (⟨"", octets⟩, rest.drop 1) else none

/-- A tag with a handle, or a local one, behind its mark. -/
def shortTag? (spots : List Spot) : Option (TagText × List Spot) := do
  let (word, rest) := run isWordChar spots
  if next '!' rest then
    let (octets, rest) ← tagPart? false (rest.drop 1)
    return (⟨"!" ++ String.ofList word ++ "!", octets⟩, rest)
  else
    let (octets, rest) ← tagOctets? false 0 [] .none spots
    let name := octets.takeWhile (· != 0)
    if name.isEmpty then return (⟨"", [UInt8.ofNat '!'.toNat]⟩, rest) else return (⟨"!", name⟩, rest)

/-- Reads a tag behind its mark; a blank comes after it or, inside brackets, a comma. -/
def tagText? (flow : Bool) (spots : List Spot) : Option (TagText × List Spot) := do
  let (tag, rest) ← if next '<' spots then fullTag? (spots.drop 1) else shortTag? spots
  if gapNext rest || (flow && next ',' rest) then return (tag, rest) else none

/-! ## Directives -/

inductive Directive where
  | version (major minor : Nat)
  | handle (handle : String) (start : List UInt8)

/-- A number of at most nine digits. -/
def versionNumber? (spots : List Spot) : Option (Nat × List Spot) :=
  let (digits, rest) := run Char.isDigit spots
  if digits.isEmpty || 9 < digits.length then none
  else some (digits.foldl (fun n d => 10 * n + (d.toNat - '0'.toNat)) 0, rest)

def versionDirective? (spots : List Spot) : Option (Directive × List Spot) := do
  let (major, rest) ← versionNumber? (skipBlanks spots)
  if next '.' rest then
    let (minor, rest) ← versionNumber? (rest.drop 1)
    return (.version major minor, rest)
  else none

/-- A handle is a mark, or a word between two marks. -/
def handle? (spots : List Spot) : Option (String × List Spot) :=
  if next '!' spots then
    let (word, rest) := run isWordChar (spots.drop 1)
    if next '!' rest then some ("!" ++ String.ofList word ++ "!", rest.drop 1)
    else if word.isEmpty then some ("!", rest)
    else none
  else none

def handleDirective? (spots : List Spot) : Option (Directive × List Spot) := do
  let (handle, rest) ← handle? (skipBlanks spots)
  let start := skipBlanks rest
  if start.length = rest.length then none
  else
    let (octets, rest) ← tagPart? true start
    if gapNext rest then return (.handle handle octets, rest) else none

/-- Reads a directive behind its mark, to the end of its line. -/
def directive? (spots : List Spot) : Option (Directive × List Spot) := do
  let (name, rest) := run isWordChar spots
  let (directive, rest) ←
    if !gapNext rest then none
    else if name == "YAML".toList then versionDirective? rest
    else if name == "TAG".toList then handleDirective? rest
    else none
  let rest ← endLine? rest
  return (directive, rest)

end NestedQuery.Yaml
