/-
The catalog: the entities outside of a statement that its names may stand for. Entries keep the order
of their registration. No two have the very same name, though two may differ in case only; a bare name
then finds the one registered first.
-/
import NestedQuery.Identifier

namespace NestedQuery

/-- What an entity is. -/
inductive EntityKind where
  | table | view | procedure
  deriving DecidableEq, Inhabited

/-- An entity and the name it is registered under. -/
structure CatalogEntry where
  name : String
  schema : Option String := none
  uniqueId : Option String := none
  kind : EntityKind := .table
  comment : Option String := none
  deriving DecidableEq

/-- The id of an entity: the one given, else its name within its schema, else its name. -/
def CatalogEntry.id (e : CatalogEntry) : String :=
  match e.uniqueId, e.schema with
  | some id, _ => id
  | none, some schema => schema ++ "." ++ e.name
  | none, none => e.name

structure Catalog where
  entries : List CatalogEntry := []
  deriving DecidableEq

/-- Why a catalog cannot be had. -/
inductive CatalogError where
  | unreadable (path : String) (reason : String)
  | malformed (reason : String)
  | unsupportedFormat (extension : String)
  | duplicateEntry (name : String)
  deriving DecidableEq

def CatalogError.message : CatalogError → String
  | .unreadable path reason => "Failed to read catalog file '" ++ path ++ "': " ++ reason
  | .malformed reason => "Failed to parse catalog data: " ++ reason
  | .unsupportedFormat extension =>
    "Unsupported catalog format: '" ++ extension ++ "' (expected .yaml, .yml or .json)"
  | .duplicateEntry name => "Catalog entry '" ++ name ++ "' is registered twice"

namespace Catalog

/-- Registers an entry at the end. A name that is already there is refused. -/
def add (c : Catalog) (e : CatalogEntry) : Except CatalogError Catalog :=
  if c.entries.any (·.name == e.name) then .error (.duplicateEntry e.name)
  else .ok ⟨c.entries ++ [e]⟩

/-- Registers an entry, or leaves the catalog as it is when the name is already there. -/
def insert (c : Catalog) (e : CatalogEntry) : Catalog :=
  match c.add e with
  | .ok c' => c'
  | .error _ => c

/-- The catalog of a list of entries; a repeated name is refused. -/
def ofEntries (entries : List CatalogEntry) : Except CatalogError Catalog := entries.foldlM add {}

/-- The first entry that an identifier names. -/
def find? (c : Catalog) (name : Identifier) : Option CatalogEntry := c.entries.find? (name.names ·.name)

/-- The id of the entity that an identifier names. -/
def lookup (c : Catalog) (name : Identifier) : Option String := (c.find? name).map (·.id)

end Catalog

end NestedQuery
