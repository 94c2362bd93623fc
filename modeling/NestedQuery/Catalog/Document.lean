/-
Catalogs as documents. A document lists its entries under one key, in JSON or in YAML, and a file tells
the format by the extension of its name.
-/
import NestedQuery.Exchange.Compilation
import NestedQuery.FileText
import NestedQuery.Json.Parser
import NestedQuery.Yaml.Document

namespace NestedQuery

/-! ## Entries in YAML -/

namespace CatalogEntry

def fieldNames : List String := ["name", "schema", "unique_id", "kind", "comment"]

/-- A text that may be missing or null. -/
def optionalField? (d : Yaml.Document) (fields : List (String × Yaml.Node)) (name : String) :
    Option (Option String) :=
  match fields.find? (·.1 == name) with
  | none => some none
  | some (_, node) => (d.follow node).optionalText?

def ofYaml? (d : Yaml.Document) (node : Yaml.Node) : Option CatalogEntry := do
  let fields ← d.fields? fieldNames node
  let (_, name) ← fields.find? (·.1 == "name")
  let kind ← match fields.find? (·.1 == "kind") with
    | none => some EntityKind.table
    | some (_, node) => do
      let word ← (d.follow node).choice? (EntityKind.all.map (·.name))
      EntityKind.all.find? (·.name == word)
  return ⟨← (d.follow name).text?, ← optionalField? d fields "schema", ← optionalField? d fields "unique_id", kind,
    ← optionalField? d fields "comment"⟩

end CatalogEntry

namespace Catalog

/-! ## Documents -/

/-- The reason given for a document that lists no entries. -/
def noEntries : CatalogError := .malformed "not a list of catalog entries"

def entriesOfJson? : Decoder (List CatalogEntry) := fun j => do
  let r ← j.record? ["entries"]
  r.withDefault "entries" [] (Decoder.list CatalogEntry.ofJson?)

/-- The entries of a YAML document. Links may not be followed more often than the document allows. -/
def entriesOfYaml? (d : Yaml.Document) : Option (List CatalogEntry) := do
  let fields ← d.fields? ["entries"] d.root
  let items ← match fields.find? (·.1 == "entries") with
    | none => some []
    | some (_, node) => d.items? node
  let links := items.foldl (fun n item => n + d.recordLinks CatalogEntry.fieldNames item)
    (d.recordLinks ["entries"] d.root)
  if d.linkLimit < links then none else items.mapM (CatalogEntry.ofYaml? d)

/-- The catalog that a JSON document describes. -/
def ofJsonText (text : String) : Except CatalogError Catalog :=
  match Json.parseDocument? text >>= entriesOfJson? with
  | some entries => ofEntries entries
  | none => .error noEntries

/-- The catalog that a YAML document describes. -/
def ofYamlText (text : String) : Except CatalogError Catalog :=
  match Yaml.Document.parse? text >>= entriesOfYaml? with
  | some entries => ofEntries entries
  | none => .error noEntries

/-! ## Files -/

/-- The part of a file name after its last dot. A dot that starts the name does not count, and neither
does one in the name of a folder. -/
def extension (path : String) : String :=
  let reversed := path.toList.reverse.takeWhile (· != '/')
  match reversed.dropWhile (· != '.') with
  | [] | [_] => ""
  | _ => String.ofList (reversed.takeWhile (· != '.')).reverse

/-- The catalog in a file: it is read first, then the format is told by its extension. -/
def load (path : String) (file : FileText) : Except CatalogError Catalog :=
  match file.read with
  | .error reason => .error (.unreadable path reason)
  | .ok text =>
    let format := Text.asciiLower (extension path)
    if format == "yaml" || format == "yml" then ofYamlText text
    else if format == "json" then ofJsonText text
    else .error (.unsupportedFormat format)

end Catalog

end NestedQuery
