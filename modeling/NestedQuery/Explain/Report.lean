/-
The work of the explain command: read a statement and a catalog, compile, and report. The exit code is 0
for a statement without problems, 1 for one with problems and 2 when there is nothing to report on.
-/
import NestedQuery.Catalog.Document
import NestedQuery.Explain.Arguments

namespace NestedQuery.Explain

/-- Why there is nothing to report on. -/
inductive Failure where
  | unreadableStatement (path reason : String)
  | malformedStatement (path : String)
  | catalog (path : String) (error : CatalogError)
  | compile (error : CompileError)

/-- The cause that an error was made of. -/
def causeMessage : CompileError → String
  | .problems _ => ""
  | .lowering e => ": " ++ e.message
  | .config e => ": " ++ e.message
  | .catalog e => ": " ++ e.message

/-- What was being done, and the cause as far as it is known. -/
def Failure.message : Failure → String
  | .unreadableStatement path reason => "reading " ++ path ++ ": " ++ reason
  | .malformedStatement path => "parsing syntax tree in " ++ path
  | .catalog path (.malformed _) => "loading catalog " ++ path
  | .catalog path e => "loading catalog " ++ path ++ ": " ++ e.message
  | .compile e => e.message ++ causeMessage e

/-- What the command prints and its exit code. -/
structure Report where
  exitCode : Nat
  output : String := ""
  errors : List String := []
  deriving DecidableEq

/-- A compilation is printed; the problems of a strict one are listed instead. -/
def Report.ofResult : Except CompileError Compilation → Except Failure Report
  | .ok c => .ok { exitCode := if c.hasProblems then 1 else 0, output := c.toJson.pretty ++ "\n" }
  | .error (.problems ps) => .ok { exitCode := 1, errors := ps.map (·.message) }
  | .error e => .error (.compile e)

def readStatement (files : String → FileText) (path : String) : Except Failure Syntax.Statement :=
  match (files path).read with
  | .error reason => .error (.unreadableStatement path reason)
  | .ok text =>
    match Json.parseDocument? text >>= Syntax.Statement.ofJson? .document with
    | some statement => .ok statement
    | none => .error (.malformedStatement path)

/-- Without a catalog file the catalog is empty. -/
def readCatalog (files : String → FileText) : Option String → Except Failure Catalog
  | none => .ok {}
  | some path =>
    match Catalog.load path (files path) with
    | .ok catalog => .ok catalog
    | .error e => .error (.catalog path e)

/-- The statement is read first, then the catalog, and then the settings are checked. -/
def report? (files : String → FileText) (options : Options) : Except Failure Report := do
  let statement ← readStatement files options.statement
  let catalog ← readCatalog files options.catalog
  match Compiler.ofConfig catalog.lookup options.config with
  | .error e => .error (.compile e)
  | .ok compiler => Report.ofResult (compiler.run statement)

/-- Explains a statement, the texts of files being given. -/
def report (files : String → FileText) (options : Options) : Report :=
  match report? files options with
  | .ok r => r
  | .error failure => { exitCode := 2, errors := ["error: " ++ failure.message] }

end NestedQuery.Explain
