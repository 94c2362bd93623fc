/-
The characters of a YAML text, each with its place. A line end is one character however it is written, and
the structure of blocks depends on columns.
-/
namespace NestedQuery.Yaml

/-! ## Characters -/

/-- A blank within a line. -/
def isBlank (c : Char) : Bool := c == ' ' || c == '\t'

def lineSeparator : Char := Char.ofNat 0x2028

def paragraphSeparator : Char := Char.ofNat 0x2029

/-- A character that ends a line. -/
def isBreak (c : Char) : Bool := c == '\n' || c == lineSeparator || c == paragraphSeparator

/-- A character that a text may contain. -/
def isAllowed (c : Char) : Bool :=
  let n := c.toNat
  n = 0x09 || n = 0x0A || n = 0x0D || (0x20 ≤ n && n ≤ 0x7E) || n = 0x85 || (0xA0 ≤ n && n ≤ 0xFFFD) ||
    0x10000 ≤ n

/-- The mark that may start a line. -/
def byteOrderMark : Char := Char.ofNat 0xFEFF

/-! ## Places -/

/-- A character and where it stands: the bytes of the text before it, its line and its column. -/
structure Spot where
  char : Char
  offset : Nat
  line : Nat
  column : Nat

/-- A carriage return and a line feed together end one line. Every line end is read as a line feed, except
the separators of lines and paragraphs, which stay. -/
def spotsFrom (offset line column : Nat) : List Char → List Spot
  | [] => []
  | '\r' :: '\n' :: cs => ⟨'\n', offset, line, column⟩ :: spotsFrom (offset + 2) (line + 1) 0 cs
  | c :: cs =>
    let char := if c == '\r' || c.toNat = 0x85 then '\n' else c
    let after := offset + c.utf8Size
    ⟨char, offset, line, column⟩ ::
      if isBreak char then spotsFrom after (line + 1) 0 cs else spotsFrom after line (column + 1) cs

/-- The characters of a text with their places. -/
def spots (text : List Char) : List Spot := spotsFrom 0 0 0 text

/-! ## What comes next -/

/-- The next character is the given one. -/
def next (c : Char) : List Spot → Bool
  | [] => false
  | s :: _ => s.char == c

/-- The next character is among the given ones. -/
def nextAmong (chars : String) : List Spot → Bool
  | [] => false
  | s :: _ => chars.toList.contains s.char

/-- A line end or the end of the text comes next. -/
def breakNext : List Spot → Bool
  | [] => true
  | s :: _ => isBreak s.char

/-- A blank, a line end or the end of the text comes next. -/
def gapNext : List Spot → Bool
  | [] => true
  | s :: _ => isBlank s.char || isBreak s.char

/-- The longest run of characters with a property, and what follows it. -/
def run (p : Char → Bool) (spots : List Spot) : List Char × List Spot :=
  let (taken, rest) := spots.span (p ·.char)
  (taken.map (·.char), rest)

/-- What follows the blanks here. -/
def skipBlanks (spots : List Spot) : List Spot := (run isBlank spots).2

/-- Three characters that start a line and stand alone mark the start or the end of a document. -/
def isMarker (c : Char) : List Spot → Bool
  | a :: b :: d :: rest => a.column == 0 && a.char == c && b.char == c && d.char == c && gapNext rest
  | _ => false

/-- The rest of a line may hold blanks and a comment; the line end is passed. -/
def endLine? (spots : List Spot) : Option (List Spot) :=
  let rest := skipBlanks spots
  let rest := if next '#' rest then (run (!isBreak ·) rest).2 else rest
  if breakNext rest then some (rest.drop 1) else none

end NestedQuery.Yaml
