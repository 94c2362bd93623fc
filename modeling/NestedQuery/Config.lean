/-
The settings of a compilation, read from a settings document, from the environment or given directly.
A strict compilation fails on any problem, so it cannot allow undefined variables.
-/
import NestedQuery.Json.Printer
import NestedQuery.Text.Blank
import NestedQuery.Text.LowerCase
import NestedQuery.Text.Visible

namespace NestedQuery

structure Config where
  allowUndefined : Bool := false
  strict : Bool := false
  deriving DecidableEq

/-- Why settings are refused. -/
inductive ConfigError where
  | strictWithUndefined
  | invalidValue (key value : String)
  | malformed (reason : String)
  deriving DecidableEq

def ConfigError.message : ConfigError → String
  | .strictWithUndefined => "strict compilation cannot allow undefined variables"
  | .invalidValue key value => "Invalid value '" ++ value ++ "' for " ++ key ++ " (expected true or false)"
  | .malformed reason => "Invalid settings: " ++ reason

namespace Config

/-- Settings that contradict each other are refused. -/
def validate (c : Config) : Except ConfigError Unit :=
  if c.strict && c.allowUndefined then .error .strictWithUndefined else .ok ()

def validated (c : Config) : Except ConfigError Config := do
  c.validate
  return c

/-! ## Settings documents -/

/-- The section of a settings document that is for the compiler. -/
def sectionName : String := "nestedSql"

def allowUndefinedField : String := "allowUndefinedVariables"

def strictField : String := "strict"

/-- What a section can have wrong with it. -/
inductive SectionFault where
  | unknownField (name : String)
  | repeatedField (name : String)
  | notBoolean (found : Json)
  | notSection (found : Json)
  | tooLong (length : Nat)

/-- A character of a quoted string in a message. One that is not visible by itself is given by number. -/
def showChar (c : Char) : List Char :=
  if c = '"' then ['\\', '"']
  else if c = '\\' then ['\\', '\\']
  else if c = '\n' then ['\\', 'n']
  else if c = '\r' then ['\\', 'r']
  else if c = '\t' then ['\\', 't']
  else if c.toNat = 0 then ['\\', '0']
  else if !Text.isVisible c then '\\' :: 'u' :: '\x7b' :: Nat.toDigits 16 c.toNat ++ ['\x7d']
  else [c]

/-- A value as a message names it. -/
def describe : Json → String
  | .null | .unreadable => "null"
  | .bool b => "boolean `" ++ (if b then "true" else "false") ++ "`"
  | .int n => "integer `" ++ toString n ++ "`"
  | .float x => "floating point `" ++ x.toText ++ "`"
  | .str s => "string \"" ++ String.ofList (s.toList.flatMap showChar) ++ "\""
  | .arr _ => "sequence"
  | .obj _ => "map"

def SectionFault.message : SectionFault → String
  | .unknownField name =>
    "unknown field `" ++ name ++ "`, expected `" ++ allowUndefinedField ++ "` or `" ++ strictField ++ "`"
  | .repeatedField name => "duplicate field `" ++ name ++ "`"
  | .notBoolean found => "invalid type: " ++ describe found ++ ", expected a boolean"
  | .notSection found => "invalid type: " ++ describe found ++ ", expected struct CompilerConfig"
  | .tooLong length => "invalid length " ++ toString length ++ ", expected fewer elements in array"

def boolean : Json → Except SectionFault Bool
  | .bool b => .ok b
  | other => .error (.notBoolean other)

/-- Reads the members of a section one by one. Each field may be missing, and none may be repeated. -/
def readMembers (allow strict : Option Bool) : List (String × Json) → Except SectionFault Config
  | [] => .ok ⟨allow.getD false, strict.getD false⟩
  | (name, value) :: rest =>
    if name == allowUndefinedField then
      if allow.isSome then .error (.repeatedField name)
      else do
        let b ← boolean value
        readMembers (some b) strict rest
    else if name == strictField then
      if strict.isSome then .error (.repeatedField name)
      else do
        let b ← boolean value
        readMembers allow (some b) rest
    else .error (.unknownField name)

/-- A section is an object, or an array of its fields in order of which the last may be missing. -/
def ofSection : Json → Except SectionFault Config
  | .obj members => readMembers none none members
  | .arr [] => .ok {}
  | .arr [allow] => do
    let a ← boolean allow
    return ⟨a, false⟩
  | .arr (allow :: strict :: rest) => do
    let a ← boolean allow
    let s ← boolean strict
    if rest.isEmpty then return ⟨a, s⟩ else .error (.tooLong (rest.length + 2))
  | other => .error (.notSection other)

/-- The members of an object in the order of their names, of a repeated name the last. -/
def sortedMembers (members : List (String × Json)) : List (String × Json) :=
  let distinct := members.foldr
    (fun member later => if later.any (·.1 == member.1) then later else member :: later) []
  distinct.mergeSort fun a b => decide (a.1 ≤ b.1)

def sortSection : Json → Json
  | .obj members => .obj (sortedMembers members)
  | other => other

/-- The settings of a settings document. A document without a section for the compiler has the default
settings; in a section, the fields are looked at in the order of their names. -/
def ofSettings (settings : Json) : Except ConfigError Config :=
  match settings.member? sectionName with
  | none => .ok {}
  | some j =>
    match ofSection (sortSection j) with
    | .ok c => c.validated
    | .error fault => .error (.malformed fault.message)

/-! ## The environment -/

def allowUndefinedKey : String := "NESTED_SQL_ALLOW_UNDEFINED"

def strictKey : String := "NESTED_SQL_STRICT"

/-- The flag that a text spells, blanks around it and the case of its letters aside. -/
def flag? (text : String) : Option Bool :=
  let word := Text.asciiLower (Text.trim text)
  if ["1", "true", "yes", "on"].contains word then some true
  else if ["0", "false", "no", "off", ""].contains word then some false
  else none

/-- The flag under a key; a key that is not set is off. -/
def readFlag (env : String → Option String) (key : String) : Except ConfigError Bool :=
  match env key with
  | none => .ok false
  | some text =>
    match flag? text with
    | some b => .ok b
    | none => .error (.invalidValue key text)

/-- The keys looked up, in order, and what came of it. -/
structure EnvReading where
  asked : List String
  result : Except ConfigError Config

/-- The settings of an environment. The second key is not looked up when the first is bad. -/
def ofEnv (env : String → Option String) : EnvReading :=
  match readFlag env allowUndefinedKey with
  | .error e => ⟨[allowUndefinedKey], .error e⟩
  | .ok allow =>
    ⟨[allowUndefinedKey, strictKey], do
      let strict ← readFlag env strictKey
      validated ⟨allow, strict⟩⟩

end Config

end NestedQuery
