/-
Plain and quoted scalars of YAML. Both may run over several lines: blanks around a line end are dropped,
a single line end is read as a space, and of several the first is dropped.
-/
import NestedQuery.Text.Hex
import NestedQuery.Yaml.Spot

namespace NestedQuery.Yaml

/-! ## Gaps between words -/

/-- Blanks and line ends between two words of a scalar. -/
structure Gap where
  /-- The blanks, as long as no line has ended. -/
  blanks : List Char := []
  /-- A line has ended. -/
  broken : Bool := false
  first : List Char := []
  more : List Char := []

/-- What a gap is read as. -/
def Gap.text (g : Gap) : List Char :=
  if !g.broken then g.blanks
  else if g.first == ['\n'] then if g.more.isEmpty then [' '] else g.more
  else g.first ++ g.more

/-- Reads a gap to its end. A line does not start with a tab before the margin. -/
def gap? (margin : Nat) (g : Gap) : List Spot → Option (Gap × List Spot)
  | [] => some (g, [])
  | s :: rest =>
    if isBreak s.char then
      if g.broken then gap? margin { g with more := g.more ++ [s.char] } rest
      else gap? margin { broken := true, first := [s.char] } rest
    else if isBlank s.char then
      if !g.broken then gap? margin { g with blanks := g.blanks ++ [s.char] } rest
      else if s.char == '\t' && s.column < margin then none
      else gap? margin g rest
    else some (g, s :: rest)

/-! ## Plain scalars -/

/-- The characters that structure collections between brackets. -/
def flowMarks : String := ",[]\x7b\x7d"

/-- The characters that no plain scalar starts with. -/
def indicators : String := ",[]\x7b\x7d#&*!|>'\"%@`"

/-- A plain scalar can start here. Of three marks each does if no blank follows it, but only the dash
does so inside brackets. -/
def startsPlain (flow : Bool) : List Spot → Bool
  | [] => false
  | s :: rest =>
    if s.char == '-' then !gapNext rest
    else if s.char == '?' || s.char == ':' then !flow && !gapNext rest
    else !gapNext [s] && !nextAmong indicators [s]

/-- The word of a plain scalar here: it ends at a blank and before a colon that a blank follows; inside
brackets it ends before a comma or bracket, too, and there a colon may not touch one of these. -/
def plainWord? (flow : Bool) : List Spot → Option (List Char × List Spot)
  | [] => some ([], [])
  | s :: rest =>
    if flow && s.char == ':' && (nextAmong flowMarks rest || next '?' rest) then none
    else if gapNext [s] || (s.char == ':' && gapNext rest) || (flow && nextAmong flowMarks [s]) then
      some ([], s :: rest)
    else do
      let (word, after) ← plainWord? flow rest
      return (s.char :: word, after)

/-- A plain scalar as read, and whether a line ended behind it. -/
structure PlainText where
  text : List Char
  broken : Bool
  rest : List Spot

/-- The content of a block starts at its margin. -/
def beforeMargin (margin : Nat) : List Spot → Bool
  | [] => false
  | s :: _ => s.column < margin

/-- Reads on after a word of a plain scalar. A comment, a marker of documents and, outside of brackets, a
line before the margin end it. -/
def plainTail? (flow : Bool) (margin : Nat) : Nat → List Char → List Spot → Option PlainText
  | 0, _, _ => none
  | steps + 1, text, spots =>
    if !gapNext spots then some ⟨text, false, spots⟩
    else do
      let (gap, rest) ← gap? margin {} spots
      if (!flow && beforeMargin margin rest) || isMarker '-' rest || isMarker '.' rest || next '#' rest then
        return ⟨text, gap.broken, rest⟩
      else do
        let (word, after) ← plainWord? flow rest
        if word.isEmpty then return ⟨text, gap.broken, rest⟩
        else plainTail? flow margin steps (text ++ gap.text ++ word) after

/-- Reads a plain scalar, in at most as many steps as there are characters. -/
def plain? (flow : Bool) (margin steps : Nat) (spots : List Spot) : Option PlainText := do
  let (word, rest) ← plainWord? flow spots
  plainTail? flow margin steps word rest

/-! ## Quoted scalars -/

/-- The character that an escape of one letter stands for. -/
def escaped? : Char → Option Char
  | '0' => some (Char.ofNat 0)
  | 'a' => some (Char.ofNat 0x07)
  | 'b' => some (Char.ofNat 0x08)
  | 't' | '\t' => some '\t'
  | 'n' => some '\n'
  | 'v' => some (Char.ofNat 0x0B)
  | 'f' => some (Char.ofNat 0x0C)
  | 'r' => some '\r'
  | 'e' => some (Char.ofNat 0x1B)
  | ' ' => some ' '
  | '"' => some '"'
  | '/' => some '/'
  | '\\' => some '\\'
  | 'N' => some (Char.ofNat 0x85)
  | '_' => some (Char.ofNat 0xA0)
  | 'L' => some lineSeparator
  | 'P' => some paragraphSeparator
  | _ => none

/-- The number of hexadecimal digits after the letter of an escape. -/
def escapeDigits : Char → Nat
  | 'x' => 2
  | 'u' => 4
  | 'U' => 8
  | _ => 0

/-- What is being read between double quotes: text, an escape, or the digits of an escape. -/
inductive Escape where
  | none
  | letter
  | digits (left value : Nat)

/-- A word between quotes, with what follows it; `joined` says that it ended at an escaped line end. -/
structure QuotedWord where
  text : List Char
  joined : Bool
  rest : List Spot

/-- The word here between single quotes, where a quote is written twice. -/
def singleWord (seen : List Char) : List Spot → QuotedWord
  | [] => ⟨seen.reverse, false, []⟩
  | s :: rest =>
    if s.char == '\'' then
      match rest with
      | t :: after =>
        if t.char == '\'' then singleWord ('\'' :: seen) after else ⟨seen.reverse, false, s :: rest⟩
      | [] => ⟨seen.reverse, false, s :: rest⟩
    else if gapNext [s] then ⟨seen.reverse, false, s :: rest⟩
    else singleWord (s.char :: seen) rest

/-- The word here between double quotes. -/
def doubleWord? (seen : List Char) : Escape → List Spot → Option QuotedWord
  | .none, [] => some ⟨seen.reverse, false, []⟩
  | _, [] => Option.none
  | .none, s :: rest =>
    if s.char == '"' || gapNext [s] then some ⟨seen.reverse, false, s :: rest⟩
    else if s.char == '\\' then doubleWord? seen .letter rest
    else doubleWord? (s.char :: seen) .none rest
  | .letter, s :: rest =>
    if isBreak s.char then some ⟨seen.reverse, true, rest⟩
    else
      match escaped? s.char with
      | some e => doubleWord? (e :: seen) .none rest
      | Option.none =>
        if escapeDigits s.char = 0 then Option.none
        else doubleWord? seen (.digits (escapeDigits s.char) 0) rest
  | .digits left value, s :: rest =>
    match Text.hexValue? s.char with
    | Option.none => Option.none
    | some digit =>
      let value := 16 * value + digit
      if left ≤ 1 then
        if h : value.isValidChar then doubleWord? (Char.ofNatAux value h :: seen) .none rest else Option.none
      else doubleWord? seen (.digits (left - 1) value) rest

/-- Reads on between quotes, up to the closing one. No marker of documents may stand there. -/
def quotedTail? (quote : Char) : Nat → List Char → List Spot → Option (List Char × List Spot)
  | 0, _, _ => none
  | steps + 1, text, spots =>
    if spots.isEmpty || isMarker '-' spots || isMarker '.' spots then none
    else do
      let word ← if quote == '"' then doubleWord? [] .none spots else some (singleWord [] spots)
      if next quote word.rest then return (text ++ word.text, word.rest.drop 1)
      else do
        let (gap, rest) ← gap? 0 { broken := word.joined } word.rest
        quotedTail? quote steps (text ++ word.text ++ gap.text) rest

/-- Reads a scalar behind its opening quote, in at most as many steps as there are characters. -/
def quoted? (quote : Char) (steps : Nat) (spots : List Spot) : Option (List Char × List Spot) :=
  quotedTail? quote steps [] spots

end NestedQuery.Yaml
