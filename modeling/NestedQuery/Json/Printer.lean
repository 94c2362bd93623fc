/-
Writing JSON: on one line, or with two blanks of indentation to a level. Characters below U+0020, the
quote and the backslash are escaped; every other character is written as it is.
-/
import NestedQuery.Json.Basic
import NestedQuery.Double.Shortest

namespace NestedQuery.Json

/-- A character of a string as it is written. -/
def escapeChar (c : Char) : List Char :=
  match c with
  | '"' => ['\\', '"']
  | '\\' => ['\\', '\\']
  | '\n' => ['\\', 'n']
  | '\r' => ['\\', 'r']
  | '\t' => ['\\', 't']
  | _ =>
    if c.toNat = 8 then ['\\', 'b']
    else if c.toNat = 12 then ['\\', 'f']
    else if c.toNat < 0x20 then '\\' :: 'u' :: Text.hexDigits 4 c.toNat
    else [c]

/-- A string between quotes. -/
def quote (s : String) : String := String.ofList ('"' :: s.toList.flatMap escapeChar ++ ['"'])

/-- A double; one that is not finite has no number and is written as null. -/
def doubleText (x : Double) : String := if x.isFinite then x.toText else "null"

/-! ## On one line -/

mutual

/-- Appends a value to the text written so far. -/
def appendCompact (out : String) : Json → String
  | .null => out ++ "null"
  | .bool b => out ++ (if b then "true" else "false")
  | .int n => out ++ toString n
  | .float x => out ++ doubleText x
  | .str s => out ++ quote s
  | .unreadable => out ++ "null"
  | .arr items => (appendItems (out.push '[') true items).push ']'
  | .obj members => (appendMembers (out.push '\x7b') true members).push '\x7d'

def appendItems (out : String) (first : Bool) : List Json → String
  | [] => out
  | item :: items => appendItems (appendCompact (if first then out else out.push ',') item) false items

def appendMembers (out : String) (first : Bool) : List (String × Json) → String
  | [] => out
  | (name, value) :: members =>
    let out := (if first then out else out.push ',') ++ quote name
    appendMembers (appendCompact (out.push ':') value) false members

end

def compact (j : Json) : String := appendCompact "" j

/-! ## Over several lines -/

/-- Starts a line at a level of nesting. -/
def newline (out : String) (level : Nat) : String := out.push '\n' ++ String.ofList (List.replicate (2 * level) ' ')

mutual

def appendPretty (out : String) (level : Nat) : Json → String
  | .null => out ++ "null"
  | .bool b => out ++ (if b then "true" else "false")
  | .int n => out ++ toString n
  | .float x => out ++ doubleText x
  | .str s => out ++ quote s
  | .unreadable => out ++ "null"
  | .arr [] => out ++ "[]"
  | .arr items => (newline (prettyItems (out.push '[') (level + 1) true items) level).push ']'
  | .obj [] => (out.push '\x7b').push '\x7d'
  | .obj members => (newline (prettyMembers (out.push '\x7b') (level + 1) true members) level).push '\x7d'

def prettyItems (out : String) (level : Nat) (first : Bool) : List Json → String
  | [] => out
  | item :: items =>
    let out := newline (if first then out else out.push ',') level
    prettyItems (appendPretty out level item) level false items

def prettyMembers (out : String) (level : Nat) (first : Bool) : List (String × Json) → String
  | [] => out
  | (name, value) :: members =>
    let out := newline (if first then out else out.push ',') level ++ quote name ++ ": "
    prettyMembers (appendPretty out level value) level false members

end

def pretty (j : Json) : String := appendPretty "" 0 j

end NestedQuery.Json
