/-
The tokens of a YAML text. Outside of brackets, columns open and close blocks. A scalar, an anchor, a tag or
an opening bracket may turn out to start a key: that is known when the colon comes, which has to be in
the same line and not far off. So every token has room for the marks that turn out to stand before it.
-/
import NestedQuery.Yaml.Block
import NestedQuery.Yaml.Property
import NestedQuery.Yaml.Scalar

namespace NestedQuery.Yaml

inductive Token where
  | directive (d : Directive)
  | documentStart
  | documentEnd
  /-- A block sequence starts. -/
  | blockSeq
  /-- A block mapping starts. -/
  | blockMap
  | blockEnd
  | openSeq
  | closeSeq
  | openMap
  | closeMap
  | comma
  | dash
  /-- A key follows. -/
  | key
  /-- A value follows. -/
  | value
  | link (name : String)
  | anchor (name : String)
  | tag (t : TagText)
  | scalar (plain : Bool) (text : String)

/-! ## Layout -/

/-- A place where a key may have started. -/
structure PossibleKey where
  /-- The number of tokens before it. -/
  position : Nat
  start : Spot
  /-- Nothing else than a key can start there. -/
  required : Bool

/-- A key is in one line and has at most 1024 bytes before its colon. -/
def PossibleKey.isStale (k : PossibleKey) (s : Spot) : Bool :=
  k.start.line < s.line || k.start.offset + 1024 < s.offset

/-- A token, and the marks of a key that starts with it. -/
structure MarkedToken where
  marks : List Token := []
  token : Token

/-- The text read so far: its tokens, the open blocks and the open brackets. -/
structure Layout where
  tokens : Array MarkedToken := #[]
  /-- The column that the content of the innermost block has to reach. -/
  margin : Nat := 0
  /-- The margins of the blocks around it. -/
  outer : List Nat := []
  /-- The possible key between the innermost brackets. -/
  possible : Option PossibleKey := none
  /-- The possible keys between the brackets around them. -/
  outerPossible : List (Option PossibleKey) := []
  /-- A key may start here. -/
  keyAllowed : Bool := true

namespace Layout

/-- Brackets are open. -/
def inFlow (l : Layout) : Bool := !l.outerPossible.isEmpty

def push (l : Layout) (t : Token) : Layout := { l with tokens := l.tokens.push { token := t } }

/-- Puts marks before the token at a position. -/
def putMarks (l : Layout) (position : Nat) (marks : List Token) : Layout :=
  { l with tokens := l.tokens.modify position fun t => { t with marks } }

def allowKey (l : Layout) (allowed : Bool) : Layout := { l with keyAllowed := allowed }

/-! ## Blocks -/

/-- Closes the innermost blocks, whose margins are given from the innermost out, as far as they are beyond
the margin `least`. -/
def closeFrom (least : Nat) (l : Layout) : List Nat → Layout
  | [] => l
  | m :: outer =>
    if least < l.margin then closeFrom least ({ l with margin := m, outer }.push .blockEnd) outer else l

/-- Closes the blocks that end before a line whose content reaches the margin `least`. -/
def closeBlocks (l : Layout) (least : Nat) : Layout := if l.inFlow then l else closeFrom least l l.outer

/-- A block that starts in a column is a new one if the column is beyond the block around it. -/
def opensBlock (l : Layout) (column : Nat) : Bool := !l.inFlow && l.margin ≤ column

def enterBlock (l : Layout) (column : Nat) : Layout :=
  if l.opensBlock column then { l with margin := column + 1, outer := l.margin :: l.outer } else l

/-- Opens a block with the given token if a new one starts in the column. -/
def openBlock (l : Layout) (column : Nat) (t : Token) : Layout :=
  if l.opensBlock column then (l.push t).enterBlock column else l

/-! ## Keys -/

/-- The possible key is none after all. -/
def dropPossible (l : Layout) : Option Layout :=
  if l.possible.any (·.required) then none else some { l with possible := none }

/-- A key may start at a character, if one is allowed there. -/
def markPossible (l : Layout) (s : Spot) : Option Layout :=
  if l.keyAllowed then do
    let l ← l.dropPossible
    let required := !l.inFlow && l.margin == s.column + 1
    return { l with possible := some ⟨l.tokens.size, s, required⟩ }
  else some l

/-- The possible keys that a character comes too late for are dropped. -/
def dropStale (l : Layout) (s : Spot) : Option Layout :=
  let check (k : Option PossibleKey) : Option (Option PossibleKey) :=
    match k with
    | none => some none
    | some k => if !k.isStale s then some (some k) else if k.required then none else some none
  do
    let possible ← check l.possible
    let outerPossible ← l.outerPossible.mapM check
    return { l with possible, outerPossible }

/-! ## Marks -/

/-- A mark that ends what could have been a key. -/
def mark (l : Layout) (t : Token) (allowed : Bool) : Option Layout := do
  let l ← l.dropPossible
  return (l.push t).allowKey allowed

/-- The marks of documents and directives end all blocks. -/
def documentMark (l : Layout) (t : Token) : Option Layout := (l.closeBlocks 0).mark t false

def openBracket (l : Layout) (s : Spot) (t : Token) : Option Layout := do
  let l ← l.markPossible s
  return { l with possible := none, outerPossible := l.possible :: l.outerPossible, keyAllowed := true }.push t

/-- A bracket that was not opened is left to be refused with the tokens. -/
def closeBracket (l : Layout) (t : Token) : Option Layout := do
  let l ← l.dropPossible
  match l.outerPossible with
  | [] => return (l.push t).allowKey false
  | possible :: outerPossible => return { l with possible, outerPossible, keyAllowed := false }.push t

/-- A dash or a question mark; outside of brackets it starts a block where a key could start. -/
def blockMark (l : Layout) (s : Spot) (block t : Token) (allowed : Bool) : Option Layout :=
  if l.inFlow then l.mark t allowed
  else if l.keyAllowed then (l.openBlock s.column block).mark t allowed
  else none

/-- A colon ends the possible key, or else stands for itself where a key could start. -/
def colon (l : Layout) (s : Spot) : Option Layout :=
  match l.possible with
  | some k =>
    let marks : List Token := if l.opensBlock k.start.column then [.blockMap, .key] else [.key]
    let l := (l.putMarks k.position marks).enterBlock k.start.column
    some ({ l with possible := none, keyAllowed := false }.push .value)
  | none => l.blockMark s .blockMap .value (!l.inFlow)

/-! ## Contents -/

/-- A property of a node, or a scalar between quotes. -/
def content (l : Layout) (s : Spot) (t : Token) : Option Layout := do
  let l ← l.markPossible s
  return (l.push t).allowKey false

/-- A plain scalar; if a line ended behind it, a key may follow. -/
def plainContent (l : Layout) (s : Spot) (p : PlainText) : Option Layout := do
  let l ← l.content s (.scalar true (String.ofList p.text))
  return l.allowKey p.broken

end Layout

/-! ## Reading -/

/-- Passes blanks, comments and line ends. A tab is blank inside brackets or where no key may start. Outside
of brackets, a key may start in a new line. -/
def skipVoid (flow comment allowed : Bool) : List Spot → Bool × List Spot
  | [] => (allowed, [])
  | s :: rest =>
    if isBreak s.char then skipVoid flow false (allowed || !flow) rest
    else if comment || s.char == '#' then skipVoid flow true allowed rest
    else if s.char == ' ' || (s.char == '\t' && (flow || !allowed)) then skipVoid flow false allowed rest
    else if s.column == 0 && s.char == byteOrderMark then skipVoid flow false allowed rest
    else (allowed, s :: rest)

/-- Reads one token that starts with the character `s`; the blocks that end before it are closed. There are
more steps than characters after it. -/
def token? (steps : Nat) (l : Layout) (s : Spot) (rest : List Spot) : Option (Layout × List Spot) :=
  let resume (rest : List Spot) (l : Option Layout) : Option (Layout × List Spot) := l.map (·, rest)
  let flow := l.inFlow
  if s.column == 0 && s.char == '%' then do
    let (d, rest) ← directive? rest
    resume rest (l.documentMark (.directive d))
  else if isMarker '-' (s :: rest) then resume (rest.drop 2) (l.documentMark .documentStart)
  else if isMarker '.' (s :: rest) then resume (rest.drop 2) (l.documentMark .documentEnd)
  else if s.char == '[' then resume rest (l.openBracket s .openSeq)
  else if s.char == '\x7b' then resume rest (l.openBracket s .openMap)
  else if s.char == ']' then resume rest (l.closeBracket .closeSeq)
  else if s.char == '\x7d' then resume rest (l.closeBracket .closeMap)
  else if s.char == ',' then resume rest (l.mark .comma true)
  else if s.char == '-' && gapNext rest then resume rest (l.blockMark s .blockSeq .dash true)
  else if s.char == '?' && (flow || gapNext rest) then resume rest (l.blockMark s .blockMap .key (!flow))
  else if s.char == ':' && (flow || gapNext rest) then resume rest (l.colon s)
  else if s.char == '*' then do
    let (name, rest) ← anchorName? rest
    resume rest (l.content s (.link name))
  else if s.char == '&' then do
    let (name, rest) ← anchorName? rest
    resume rest (l.content s (.anchor name))
  else if s.char == '!' then do
    let (tag, rest) ← tagText? flow rest
    resume rest (l.content s (.tag tag))
  else if (s.char == '|' || s.char == '>') && !flow then do
    let (text, rest) ← block? (s.char == '|') l.margin steps rest
    resume rest (l.mark (.scalar false (String.ofList text)) true)
  else if s.char == '\'' || s.char == '"' then do
    let (text, rest) ← quoted? s.char steps rest
    resume rest (l.content s (.scalar false (String.ofList text)))
  else if startsPlain flow (s :: rest) then do
    let p ← plain? flow l.margin steps (s :: rest)
    resume p.rest (l.plainContent s p)
  else none

/-- Reads tokens up to the end of the text. Each is read with more steps left than characters. -/
def layout? : Nat → Layout → List Spot → Option Layout
  | 0, _, _ => none
  | steps + 1, l, spots => do
    let (allowed, spots) := skipVoid l.inFlow false l.keyAllowed spots
    match spots with
    | [] => (l.closeBlocks 0).dropPossible
    | s :: rest =>
      let l ← (l.allowKey allowed).dropStale s
      let (l, rest) ← token? (steps + 1) (l.closeBlocks (s.column + 1)) s rest
      layout? steps l rest

/-- The tokens of a text. -/
def tokens? (text : String) : Option (List Token) := do
  let chars := text.toList
  if chars.all isAllowed then
    let l ← layout? (chars.length + 1) {} (spots chars)
    return l.tokens.toList.flatMap fun t => t.marks ++ [t.token]
  else none

end NestedQuery.Yaml
