/-
The command line of the explain command: a statement file, perhaps a catalog file, and two flags, each
of which a variable of the environment sets as well. Arguments are looked at from left to right, and the
first that is wrong, or that asks for help or the version, decides.
-/
import NestedQuery.Config

namespace NestedQuery.Explain

/-- What to explain, and how. -/
structure Options where
  statement : String
  catalog : Option String
  config : Config
  deriving DecidableEq

/-- What a command line asks for. -/
inductive Request where
  | help
  | version
  | explain (options : Options)
  deriving DecidableEq

/-- Why a command line is refused. -/
inductive UsageError where
  | unknownFlag (flag : String)
  | repeatedFlag (flag : String)
  | flagWithValue (flag : String)
  | emptyPath
  | extraArgument (argument : String)
  | badVariable (key value : String)
  | missingStatement
  deriving DecidableEq

def UsageError.message : UsageError → String
  | .unknownFlag flag => "unexpected argument '" ++ flag ++ "'"
  | .repeatedFlag flag => "the argument '" ++ flag ++ "' cannot be used multiple times"
  | .flagWithValue flag => "the argument '" ++ flag ++ "' takes no value"
  | .emptyPath => "a path may not be empty"
  | .extraArgument argument => "unexpected argument '" ++ argument ++ "'"
  | .badVariable key value => "invalid value '" ++ value ++ "' for " ++ key ++ " (expected true or false)"
  | .missingStatement => "the statement file is missing"

def commandName : String := "nested-sql-explain"

def versionText : String := commandName ++ " 0.1.0"

def usageText : String := "Usage: " ++ commandName ++ " [--allow-undefined] [--strict] <STATEMENT> [CATALOG]"

def allowUndefinedFlag : String := "--allow-undefined"

def strictFlag : String := "--strict"

/-- The arguments seen so far. -/
structure Seen where
  paths : List String := []
  allowUndefined : Bool := false
  strict : Bool := false

/-- The statement comes first, then the catalog. -/
def Seen.addPath (s : Seen) (path : String) : Except UsageError Seen :=
  if path.isEmpty then .error .emptyPath
  else if s.paths.length < 2 then .ok { s with paths := s.paths ++ [path] }
  else .error (.extraArgument path)

def Seen.addFlag (s : Seen) (flag : String) : Except UsageError Seen :=
  if flag == allowUndefinedFlag then
    if s.allowUndefined then .error (.repeatedFlag flag) else .ok { s with allowUndefined := true }
  else if flag == strictFlag then
    if s.strict then .error (.repeatedFlag flag) else .ok { s with strict := true }
  else if (flag.toList.any (· == '=')) then .error (.flagWithValue flag)
  else .error (.unknownFlag flag)

/-- What comes of a list of arguments before the environment is asked. -/
inductive Parsed where
  | help
  | version
  | seen (seen : Seen)

/-- An argument that starts with a dash is a flag, unless it is the dash alone. -/
def isFlag (argument : String) : Bool :=
  match argument.toList with
  | '-' :: _ :: _ => true
  | _ => false

/-- Reads arguments from left to right; after `--` all are paths. -/
def parseArguments (s : Seen) : List String → Except UsageError Parsed
  | [] => .ok (.seen s)
  | argument :: rest =>
    if argument == "--" then (rest.foldlM Seen.addPath s).map .seen
    else if !isFlag argument then do
      let s ← s.addPath argument
      parseArguments s rest
    else if argument == "--help" then .ok .help
    else if argument == "--version" then .ok .version
    else
      match argument.toList with
      | '-' :: 'h' :: _ => .ok .help
      | '-' :: 'V' :: _ => .ok .version
      | _ => do
        let s ← s.addFlag argument
        parseArguments s rest

/-- A flag that is not given is set by its variable, which has to be spelled `true` or `false`. -/
def flagOrVariable (given : Bool) (env : String → Option String) (key : String) : Except UsageError Bool :=
  if given then .ok true
  else
    match env key with
    | none | some "false" => .ok false
    | some "true" => .ok true
    | some value => .error (.badVariable key value)

/-- What a command line asks for in an environment. -/
def Request.ofArguments (env : String → Option String) (arguments : List String) :
    Except UsageError Request := do
  match ← parseArguments {} arguments with
  | .help => return .help
  | .version => return .version
  | .seen s =>
    let allowUndefined ← flagOrVariable s.allowUndefined env Config.allowUndefinedKey
    let strict ← flagOrVariable s.strict env Config.strictKey
    match s.paths with
    | [] => .error .missingStatement
    | statement :: rest => return .explain ⟨statement, rest.head?, ⟨allowUndefined, strict⟩⟩

end NestedQuery.Explain
