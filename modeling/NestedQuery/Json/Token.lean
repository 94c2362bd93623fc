/-
The tokens of JSON text. The lexer reads one character at a time; its mode says what it is in the
middle of. Blanks between tokens are space, tab, line feed and carriage return.
-/
import NestedQuery.Json.Basic

namespace NestedQuery.Json

inductive Token where
  | openArray
  | closeArray
  | openObject
  | closeObject
  | comma
  | colon
  | scalar (value : Json)

/-! ## Numbers -/

/-- The integer that decimal digits spell. -/
def digitsValue (digits : List Char) : Nat :=
  digits.foldl (fun n d => 10 * n + (d.toNat - '0'.toNat)) 0

/-- A number without a sign, split into whole digits, digits after the point and the exponent. -/
structure NumberText where
  whole : List Char
  fraction : List Char
  exponent : Option Int

/-- Reads the exponent's digits with an optional sign. -/
def exponentValue? (cs : List Char) : Option Int :=
  let digits? (ds : List Char) : Option Nat :=
    if ds.isEmpty || !ds.all Char.isDigit then none else some (digitsValue ds)
  match cs with
  | '+' :: ds => (digits? ds).map Int.ofNat
  | '-' :: ds => (digits? ds).map fun n => -(n : Int)
  | ds => (digits? ds).map Int.ofNat

/-- Reads `.digits`, which may be missing altogether; gives the digits and what follows them. -/
def fractionText? : List Char → Option (List Char × List Char)
  | '.' :: rest =>
    match rest.span Char.isDigit with
    | ([], _) => none
    | (digits, after) => some (digits, after)
  | rest => some ([], rest)

/-- The whole digits start with no zero unless they are one zero; the exponent follows `e` or `E`. -/
def numberText? (cs : List Char) : Option NumberText := do
  let (whole, rest) := cs.span Char.isDigit
  match whole with
  | [] => none
  | '0' :: _ :: _ => none
  | _ =>
    let (fraction, after) ← fractionText? rest
    match after with
    | [] => some ⟨whole, fraction, none⟩
    | e :: digits =>
      if e = 'e' || e = 'E' then
        (exponentValue? digits).map fun n => ⟨whole, fraction, some n⟩
      else none

/-- The integers that are kept as integers: those of a signed or an unsigned 64-bit word. -/
def fitsWord (n : Int) : Bool := -0x8000000000000000 ≤ n && n < 0x10000000000000000

/-- A number with a point or an exponent is a double, and so are an integer too long for a word and
minus zero. A number too large for a double is unreadable. -/
def number? (negative : Bool) (cs : List Char) : Option Json := do
  let text ← numberText? cs
  let whole := digitsValue text.whole
  let value : Int := if negative then -whole else whole
  if text.fraction.isEmpty && text.exponent.isNone && fitsWord value && !(negative && whole == 0) then
    return .int value
  else
    let digits := digitsValue (text.whole ++ text.fraction)
    match Double.ofDecimal? negative digits (text.exponent.getD 0 - text.fraction.length) with
    | some x => return .float x
    | none => return .unreadable

/-- A bare word: one of the three names, or a number. -/
def word? (cs : List Char) : Option Json :=
  if cs = "null".toList then some .null
  else if cs = "true".toList then some (.bool true)
  else if cs = "false".toList then some (.bool false)
  else
    match cs with
    | '-' :: rest => number? true rest
    | _ => number? false cs

/-! ## The lexer -/

/-- The characters of a string, last first. There are none once half a surrogate pair stands alone. -/
abbrev Spelled := Option (List Char)

def Spelled.push (seen : Spelled) (c : Char) : Spelled := seen.map (c :: ·)

/-- The value of a string. -/
def Spelled.value : Spelled → Json
  | some seen => .str (String.ofList seen.reverse)
  | none => .unreadable

/-- What the lexer is in the middle of. Characters of a word are kept last first. -/
inductive Mode where
  | between
  | word (seen : List Char)
  | string (seen : Spelled)
  | escape (seen : Spelled)
  /-- Inside `\u`: digits left to read, their value so far, and a high surrogate waiting for its pair. -/
  | unicode (seen : Spelled) (left : Nat) (value : Nat) (high : Option Nat)
  /-- After a high surrogate: the backslash of its pair is due, then its `u`. -/
  | pairSlash (seen : Spelled) (high : Nat)
  | pairU (seen : Spelled) (high : Nat)

/-- The lexer's mode and the tokens read so far, last first. -/
structure Lexer where
  mode : Mode
  tokens : List Token

def isWordChar (c : Char) : Bool := c.isAlphanum || c == '-' || c == '+' || c == '.'

def isSurrogateHigh (n : Nat) : Bool := 0xD800 ≤ n && n < 0xDC00

def isSurrogateLow (n : Nat) : Bool := 0xDC00 ≤ n && n < 0xE000

/-- The character after a backslash, for the escapes of one letter. -/
def escaped? : Char → Option Char
  | '"' => some '"'
  | '\\' => some '\\'
  | '/' => some '/'
  | 'b' => some (Char.ofNat 8)
  | 'f' => some (Char.ofNat 12)
  | 'n' => some '\n'
  | 'r' => some '\r'
  | 't' => some '\t'
  | _ => none

/-- One character between two tokens. -/
def Lexer.start (tokens : List Token) (c : Char) : Option Lexer :=
  let token (t : Token) : Option Lexer := some ⟨.between, t :: tokens⟩
  match c with
  | ' ' | '\t' | '\n' | '\r' => some ⟨.between, tokens⟩
  | '[' => token .openArray
  | ']' => token .closeArray
  | '\x7b' => token .openObject
  | '\x7d' => token .closeObject
  | ',' => token .comma
  | ':' => token .colon
  | '"' => some ⟨.string (some []), tokens⟩
  | _ => if isWordChar c then some ⟨.word [c], tokens⟩ else none

/-- The last of four hexadecimal digits completes a unit: a character, or half of a surrogate pair. -/
def Lexer.unit (tokens : List Token) (seen : Spelled) (high : Option Nat) (value : Nat) : Lexer :=
  match high with
  | some h =>
    if isSurrogateLow value then
      ⟨.string (seen.push (Char.ofNat (0x10000 + (h - 0xD800) * 0x400 + (value - 0xDC00)))), tokens⟩
    else ⟨.string none, tokens⟩
  | none =>
    if isSurrogateHigh value then ⟨.pairSlash seen value, tokens⟩
    else if isSurrogateLow value then ⟨.string none, tokens⟩
    else ⟨.string (seen.push (Char.ofNat value)), tokens⟩

/-- One character of a string. -/
def Lexer.inString (tokens : List Token) (seen : Spelled) (c : Char) : Option Lexer :=
  if c = '"' then some ⟨.between, .scalar seen.value :: tokens⟩
  else if c = '\\' then some ⟨.escape seen, tokens⟩
  else if c.toNat < 0x20 then none
  else some ⟨.string (seen.push c), tokens⟩

/-- The character after a backslash. -/
def Lexer.inEscape (tokens : List Token) (seen : Spelled) (c : Char) : Option Lexer :=
  if c = 'u' then some ⟨.unicode seen 4 0 none, tokens⟩
  else (escaped? c).map fun e => ⟨.string (seen.push e), tokens⟩

/-- Reads one character. -/
def Lexer.step (lexer : Lexer) (c : Char) : Option Lexer :=
  match lexer with
  | ⟨.between, tokens⟩ => start tokens c
  | ⟨.word seen, tokens⟩ =>
    if isWordChar c then some ⟨.word (c :: seen), tokens⟩
    else do
      let value ← word? seen.reverse
      start (.scalar value :: tokens) c
  | ⟨.string seen, tokens⟩ => inString tokens seen c
  | ⟨.escape seen, tokens⟩ => inEscape tokens seen c
  | ⟨.unicode seen left value high, tokens⟩ => do
    let digit ← Text.hexValue? c
    let value := 16 * value + digit
    if left ≤ 1 then some (unit tokens seen high value) else some ⟨.unicode seen (left - 1) value high, tokens⟩
  | ⟨.pairSlash seen high, tokens⟩ =>
    if c = '\\' then some ⟨.pairU seen high, tokens⟩ else inString tokens none c
  | ⟨.pairU seen high, tokens⟩ =>
    if c = 'u' then some ⟨.unicode seen 4 0 (some high), tokens⟩ else inEscape tokens none c

/-- The tokens in order, once the text has ended; an open string has no tokens. -/
def Lexer.finish (lexer : Lexer) : Option (List Token) :=
  match lexer with
  | ⟨.between, tokens⟩ => some tokens.reverse
  | ⟨.word seen, tokens⟩ => (word? seen.reverse).map fun value => (.scalar value :: tokens).reverse
  | _ => none

/-- The tokens of a text, or `none` when it is not made of tokens. -/
def tokens? (s : String) : Option (List Token) := do
  let lexer ← s.toList.foldlM Lexer.step ⟨.between, []⟩
  lexer.finish

end NestedQuery.Json
