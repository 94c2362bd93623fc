/-
Block scalars of YAML, whose text is the indented lines below their header. A literal scalar keeps the line
ends, a folded one reads a single line end between two lines as a space, except next to a line that
starts with a blank.
-/
import NestedQuery.Yaml.Spot

namespace NestedQuery.Yaml

/-! ## Headers -/

/-- What becomes of the line ends after the last line. -/
inductive Chomping where
  /-- All are dropped. -/
  | strip
  /-- The first is kept. -/
  | clip
  /-- All are kept. -/
  | keep
  deriving DecidableEq

/-- The chomping, and the indentation within the block if it is given. -/
structure BlockHeader where
  chomping : Chomping := .clip
  indentation : Nat := 0

def chomping? (c : Char) : Option Chomping :=
  if c == '+' then some .keep else if c == '-' then some .strip else none

/-- Reads up to two marks of a header, one of each kind in either order. -/
def header? : List Spot → Option (BlockHeader × List Spot)
  | [] => some ({}, [])
  | s :: rest =>
    match chomping? s.char with
    | some chomping =>
      match rest with
      | [] => some (⟨chomping, 0⟩, [])
      | t :: after =>
        if t.char == '0' then none
        else if t.char.isDigit then some (⟨chomping, t.char.toNat - '0'.toNat⟩, after)
        else some (⟨chomping, 0⟩, rest)
    | none =>
      if s.char == '0' then none
      else if s.char.isDigit then
        let indentation := s.char.toNat - '0'.toNat
        match rest with
        | [] => some (⟨.clip, indentation⟩, [])
        | t :: after =>
          match chomping? t.char with
          | some chomping => some (⟨chomping, indentation⟩, after)
          | none => some (⟨.clip, indentation⟩, rest)
      else some ({}, s :: rest)

/-! ## Lines -/

/-- The empty lines here: the deepest column reached before their ends, the line ends, and what follows.
An indentation of zero is not known yet. Tabs do not indent. -/
def emptyLines? (indentation deepest : Nat) (breaks : List Char) :
    List Spot → Option (Nat × List Char × List Spot)
  | [] => some (deepest, breaks, [])
  | s :: rest =>
    let outside := indentation = 0 || s.column < indentation
    if outside && s.char == ' ' then emptyLines? indentation deepest breaks rest
    else
      let deepest := max deepest s.column
      if outside && s.char == '\t' then none
      else if isBreak s.char then emptyLines? indentation deepest (breaks ++ [s.char]) rest
      else some (deepest, breaks, s :: rest)

/-- The text so far, the end of its last line and of the empty lines after it. -/
structure BlockText where
  text : List Char := []
  lineEnd : List Char := []
  emptyEnds : List Char := []
  /-- The last line starts with a blank. -/
  indented : Bool := false

/-- What stands for the line end between the text and a new line. -/
def BlockText.joint (b : BlockText) (literal indented : Bool) : List Char :=
  if !literal && b.lineEnd == ['\n'] && !b.indented && !indented then
    if b.emptyEnds.isEmpty then [' '] else []
  else b.lineEnd

/-- Reads the lines of a block, which all start in the column of its indentation. -/
def blockLines? (literal : Bool) (indentation : Nat) :
    Nat → BlockText → List Spot → Option (BlockText × List Spot)
  | 0, _, _ => none
  | _ + 1, b, [] => some (b, [])
  | steps + 1, b, s :: rest =>
    if s.column ≠ indentation then some (b, s :: rest)
    else do
      let indented := isBlank s.char
      let (line, after) := run (!isBreak ·) (s :: rest)
      let lineEnd := (after.take 1).map (·.char)
      let (_, emptyEnds, following) ← emptyLines? indentation 0 [] (after.drop 1)
      let text := b.text ++ b.joint literal indented ++ b.emptyEnds ++ line
      blockLines? literal indentation steps ⟨text, lineEnd, emptyEnds, indented⟩ following

/-- Reads a block scalar behind the mark of its style. Its indentation is given in the header, from the
column where the block around it starts, or it is that of the first line that is not empty. There are at
most as many steps as characters. -/
def block? (literal : Bool) (margin steps : Nat) (spots : List Spot) : Option (List Char × List Spot) := do
  let (header, rest) ← header? spots
  let lines ← endLine? rest
  let given := if header.indentation = 0 then 0 else margin - 1 + header.indentation
  let (deepest, breaks, content) ← emptyLines? given 0 [] lines
  let indentation := if given = 0 then max deepest (max margin 1) else given
  let (b, after) ← blockLines? literal indentation steps { emptyEnds := breaks } content
  match header.chomping with
  | .strip => return (b.text, after)
  | .clip => return (b.text ++ b.lineEnd, after)
  | .keep => return (b.text ++ b.lineEnd ++ b.emptyEnds, after)

end NestedQuery.Yaml
