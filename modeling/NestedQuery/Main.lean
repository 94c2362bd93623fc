/-
The explain command: compiles the statement in a file and prints the compilation.
-/
import NestedQuery.Explain.Report

namespace NestedQuery.Explain

/-- The number of the operating system for an error, whose sign may be turned. -/
def errorCode (code : UInt32) : Nat := if code.toNat < 0x80000000 then code.toNat else (0 - code).toNat

/-- Reads a file. -/
def readFile (path : String) : IO FileText := do
  try
    return .ofBytes (← IO.FS.readBinFile path)
  catch
    | e@(.noFileOrDirectory _ code _) | e@(.inappropriateType _ code _) | e@(.invalidArgument _ code _)
    | e@(.permissionDenied _ code _) => return .ofCode (errorCode code) (toString e)
    | e => return .failed (toString e)

/-- Prints a report and gives its exit code. -/
def printReport (r : Report) : IO UInt32 := do
  IO.print r.output
  for line in r.errors do
    IO.eprintln line
  return r.exitCode.toUInt32

/-- Explains the statement of the given files. -/
def explainFiles (options : Options) : IO UInt32 := do
  let statement ← readFile options.statement
  let catalog ← match options.catalog with
    | some path => readFile path
    | none => pure .missing
  printReport (report (fun path => if path == options.statement then statement else catalog) options)

end NestedQuery.Explain

open NestedQuery NestedQuery.Explain in
/-- Runs the command. -/
def main (args : List String) : IO UInt32 := do
  let allowUndefined ← IO.getEnv Config.allowUndefinedKey
  let strict ← IO.getEnv Config.strictKey
  let env (key : String) : Option String := if key == Config.strictKey then strict else allowUndefined
  match Request.ofArguments env args with
  | .ok .help => IO.println usageText; return 0
  | .ok .version => IO.println versionText; return 0
  | .ok (.explain options) => explainFiles options
  | .error e =>
    IO.eprintln ("error: " ++ e.message)
    IO.eprintln usageText
    return 2
