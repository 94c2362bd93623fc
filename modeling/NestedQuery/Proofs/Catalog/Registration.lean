/-
Entries stay in the order of their registration, and a name finds the first that it names. So registering more
entries never changes an answer that the catalog already gives.
-/
import NestedQuery.Catalog.Basic

namespace NestedQuery.Catalog

theorem entries_of_add {c c' : Catalog} {e : CatalogEntry} (h : c.add e = .ok c') :
    c'.entries = c.entries ++ [e] := by
  unfold add at h
  split at h
  · cases h
  · cases h
    rfl

theorem entries_of_foldlM : ∀ {es : List CatalogEntry} {c c' : Catalog}, es.foldlM add c = .ok c' →
    c'.entries = c.entries ++ es
  | [], c, c', h => by
    cases h
    exact (List.append_nil _).symm
  | e :: es, c, c', h => by
    rw [List.foldlM_cons] at h
    cases ha : c.add e with
    | error error =>
      rw [ha] at h
      cases h
    | ok d =>
      rw [ha] at h
      rw [entries_of_foldlM (c := d) h, entries_of_add ha, List.append_assoc, List.singleton_append]

/-- A catalog of a list of entries has just these, in order. -/
theorem entries_of_ofEntries {es : List CatalogEntry} {c : Catalog} (h : ofEntries es = .ok c) : c.entries = es :=
  entries_of_foldlM h

/-- Entries registered later answer only what has no answer yet. -/
theorem lookup_append (es more : List CatalogEntry) (name : Identifier) :
    (Catalog.mk (es ++ more)).lookup name = ((Catalog.mk es).lookup name).or ((Catalog.mk more).lookup name) := by
  unfold lookup find?
  rw [List.find?_append, Option.map_or]

theorem lookup_of_ofEntries_append {es more : List CatalogEntry} {small large : Catalog}
    (hs : ofEntries es = .ok small) (hl : ofEntries (es ++ more) = .ok large) {name : Identifier} {id : String}
    (h : small.lookup name = some id) : large.lookup name = some id := by
  obtain rfl : small = ⟨es⟩ := congrArg Catalog.mk (entries_of_ofEntries hs)
  obtain rfl : large = ⟨es ++ more⟩ := congrArg Catalog.mk (entries_of_ofEntries hl)
  rw [lookup_append, h, Option.some_or]

end NestedQuery.Catalog
