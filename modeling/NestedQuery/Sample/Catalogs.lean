/-
Catalogs of a small shop: as two documents that say the same, and as a catalog of plain tables.
-/
import NestedQuery.Catalog.Basic

namespace NestedQuery.Sample

/-- A table in a schema. -/
def table (name schema : String) : CatalogEntry := { name, schema := some schema }

/-- A table with an id of its own. -/
def tableWithId (name id : String) : CatalogEntry := { name, uniqueId := some id }

/-- A procedure without a schema. -/
def procedure (name : String) : CatalogEntry := { name, kind := .procedure }

/-- Five tables of the shop, two of which differ in case only. -/
def shopTables : List CatalogEntry := ["orders", "Foo", "foo", "t", "archive"].map (table · "shop")

/-- The shop in YAML. -/
def shopYaml : String :=
  "entries:\n  - name: orders\n    schema: shop\n  - name: customers\n    schema: shop\n" ++
  "    comment: one row per customer\n  - name: Foo\n    schema: shop\n  - name: archive\n" ++
  "    unique_id: \"cold.archive#7\"\n  - name: refund\n    kind: procedure\n"

/-- The shop in JSON. -/
def shopJson : String :=
  "\x7b\"entries\": [\n  \x7b\"name\": \"orders\", \"schema\": \"shop\"\x7d,\n" ++
  "  \x7b\"name\": \"customers\", \"schema\": \"shop\", \"comment\": \"one row per customer\"\x7d,\n" ++
  "  \x7b\"name\": \"Foo\", \"schema\": \"shop\"\x7d,\n" ++
  "  \x7b\"name\": \"archive\", \"unique_id\": \"cold.archive#7\"\x7d,\n" ++
  "  \x7b\"name\": \"refund\", \"kind\": \"procedure\"\x7d\n]\x7d"

end NestedQuery.Sample
