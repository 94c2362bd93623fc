/-
Reading JSON text: the tokens drive a stack of unfinished arrays and objects. Nothing may follow the
value, and no comma may stand before a closing bracket. In a document nothing deeper than 127 levels can
be read.
-/
import NestedQuery.Json.Token

namespace NestedQuery.Json

/-- An array or object that is still open, its finished parts last first. -/
inductive Open where
  | array (items : List Json)
  /-- The name of the next member is the last one read; an object with an unreadable name is unreadable. -/
  | object (members : List (String × Json)) (name : String) (readable : Bool)

/-- What may come next. -/
inductive Expect where
  | value
  /-- A value, or the end of the array just opened. -/
  | valueOrEnd
  | name
  /-- A name, or the end of the object just opened. -/
  | nameOrEnd
  | colon
  /-- A comma or the end of the innermost open container; nothing more when none is open. -/
  | after

/-- The containers still open, innermost first, and the finished value once there is one. -/
structure Reading where
  expect : Expect
  stack : List Open
  result : Option Json

/-- A value is complete: it goes into the innermost open container, or is the result. -/
def Reading.complete (stack : List Open) (value : Json) : Reading :=
  match stack with
  | [] => ⟨.after, [], some value⟩
  | .array items :: rest => ⟨.after, .array (value :: items) :: rest, none⟩
  | .object members name readable :: rest =>
    ⟨.after, .object ((name, value) :: members) name readable :: rest, none⟩

/-- The first token of a value. -/
def Reading.begin (stack : List Open) : Token → Option Reading
  | .scalar value => some (complete stack value)
  | .openArray => some ⟨.valueOrEnd, .array [] :: stack, none⟩
  | .openObject => some ⟨.nameOrEnd, .object [] "" true :: stack, none⟩
  | _ => none

/-- The name of a member, which is a string. -/
def Reading.named (stack : List Open) : Token → Option Reading
  | .scalar (.str name) =>
    match stack with
    | .object members _ readable :: rest => some ⟨.colon, .object members name readable :: rest, none⟩
    | _ => none
  | .scalar .unreadable =>
    match stack with
    | .object members name _ :: rest => some ⟨.colon, .object members name false :: rest, none⟩
    | _ => none
  | _ => none

/-- A closing bracket ends the innermost open container of its kind. -/
def Reading.close (stack : List Open) : Token → Option Reading
  | .closeArray =>
    match stack with
    | .array items :: rest => some (complete rest (.arr items.reverse))
    | _ => none
  | .closeObject =>
    match stack with
    | .object members _ readable :: rest =>
      some (complete rest (if readable then .obj members.reverse else .unreadable))
    | _ => none
  | _ => none

def Reading.step (reading : Reading) (token : Token) : Option Reading :=
  match reading.expect, token with
  | .value, t => begin reading.stack t
  | .valueOrEnd, .closeArray => close reading.stack .closeArray
  | .valueOrEnd, t => begin reading.stack t
  | .name, t => named reading.stack t
  | .nameOrEnd, .closeObject => close reading.stack .closeObject
  | .nameOrEnd, t => named reading.stack t
  | .colon, .colon => some ⟨.value, reading.stack, none⟩
  | .colon, _ => none
  | .after, .comma =>
    match reading.stack with
    | .array _ :: _ => some ⟨.value, reading.stack, none⟩
    | .object .. :: _ => some ⟨.name, reading.stack, none⟩
    | [] => none
  | .after, t => close reading.stack t

/-- The value that a list of tokens spells. -/
def ofTokens? (tokens : List Token) : Option Json := do
  let reading ← tokens.foldlM Reading.step ⟨.value, [], none⟩
  reading.result

/-- The value that a text spells, however deeply it nests. -/
def parse? (s : String) : Option Json := tokens? s >>= ofTokens?

/-- The deepest level of a document that can be read. -/
def maxDepth : Nat := 127

/-- The value of a document. -/
def parseDocument? (s : String) : Option Json := (parse? s).map (capDepth maxDepth)

end NestedQuery.Json
