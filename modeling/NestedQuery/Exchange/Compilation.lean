/-
The JSON form of catalogs, settings and compilations.
-/
import NestedQuery.Compilation
import NestedQuery.Exchange.Plan
import NestedQuery.Exchange.Syntax

namespace NestedQuery

namespace CatalogEntry

def toJson (e : CatalogEntry) : Json :=
  .obj [("name", .str e.name), ("schema", .ofOption .str e.schema), ("unique_id", .ofOption .str e.uniqueId),
    ("kind", e.kind.toJson), ("comment", .ofOption .str e.comment)]

def ofJson? : Decoder CatalogEntry := fun j => do
  let r ← j.record? ["name", "schema", "unique_id", "kind", "comment"]
  return ⟨← r.required "name" Decoder.string, ← r.optional "schema" Decoder.string,
    ← r.optional "unique_id" Decoder.string, ← r.withDefault "kind" .table EntityKind.ofJson?,
    ← r.optional "comment" Decoder.string⟩

end CatalogEntry

def Catalog.toJson (c : Catalog) : Json := .obj [("entries", .ofList CatalogEntry.toJson c.entries)]

namespace Config

def toJson (c : Config) : Json :=
  .obj [(allowUndefinedField, .bool c.allowUndefined), (strictField, .bool c.strict)]

def ofJson? : Decoder Config := fun j => (ofSection j).toOption

end Config

namespace Compilation

def toJson (c : Compilation) : Json :=
  .obj [("resolved_plan", c.resolved.toJson Binding.toJson), ("locals", .ofList Local.toJson c.locals),
    ("physical_plan", .ofOption (Plan.Statement.toJson Binding.toJson) c.physical),
    ("problems", .ofList Problem.toJson c.problems)]

def ofJson? (form : Json.Form) : Decoder Compilation := fun j => do
  let r ← j.record? ["resolved_plan", "locals", "physical_plan", "problems"]
  return ⟨← r.required "resolved_plan" (Plan.Statement.ofJson? form (Binding.ofJson? form)),
    ← r.required "locals" (Decoder.list Local.ofJson?),
    ← r.nullable "physical_plan" (Plan.Statement.ofJson? form (Binding.ofJson? form)),
    ← r.required "problems" (Decoder.list (Problem.ofJson? form))⟩

end Compilation

end NestedQuery
