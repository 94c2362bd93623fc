/-
A catalog after any history of registrations, some of them refused. It has the first entry of each name and no other, in
the order of registration. A quoted name finds the entry of just that name. A bare name finds the first entry whose name
is equal when case is ignored, so it may find another one than the quoted name does, but never a later one.
-/
import NestedQuery.Proofs.Catalog.Registration
import Mathlib.Data.List.Induction
import Mathlib.Data.List.Nodup

namespace NestedQuery.Catalog

variable {c : Catalog} {e : CatalogEntry}

/-! ## One registration -/

/-- The names under which entries are registered. -/
def names (c : Catalog) : List String := c.entries.map (·.name)

theorem add_of_mem (h : e.name ∈ c.names) : c.add e = .error (.duplicateEntry e.name) := by
  obtain ⟨d, hd, hn⟩ := List.mem_map.1 h
  refine if_pos (List.any_eq_true.2 ⟨d, hd, ?_⟩)
  exact beq_iff_eq.2 hn

theorem add_of_not_mem (h : e.name ∉ c.names) : c.add e = .ok ⟨c.entries ++ [e]⟩ := by
  refine if_neg fun hany => h ?_
  obtain ⟨d, hd, hn⟩ := List.any_eq_true.1 hany
  exact List.mem_map.2 ⟨d, hd, beq_iff_eq.1 hn⟩

theorem insert_of_mem (h : e.name ∈ c.names) : c.insert e = c := by
  unfold insert
  rw [add_of_mem h]

theorem insert_of_not_mem (h : e.name ∉ c.names) : c.insert e = ⟨c.entries ++ [e]⟩ := by
  unfold insert
  rw [add_of_not_mem h]

/-! ## Histories -/

/-- An attempt to register an entry. -/
inductive Attempt where
  | add (entry : CatalogEntry)
  | insert (entry : CatalogEntry)

def Attempt.entry : Attempt → CatalogEntry
  | .add e => e
  | .insert e => e

/-- The catalog after an attempt, the same if the attempt fails. -/
def attempt (c : Catalog) : Attempt → Catalog
  | .add e =>
    match c.add e with
    | .ok c' => c'
    | .error _ => c
  | .insert e => c.insert e

/-- An empty catalog after attempts. -/
def attempted (attempts : List Attempt) : Catalog := attempts.foldl attempt {}

/-- The entries for which an attempt succeeds. -/
def accepted (c : Catalog) : List Attempt → List CatalogEntry
  | [] => []
  | a :: attempts => (if (c.add a.entry).isOk then [a.entry] else []) ++ accepted (c.attempt a) attempts

theorem attempt_eq_insert (c : Catalog) (a : Attempt) : c.attempt a = c.insert a.entry := by
  cases a <;> rfl

theorem foldl_attempt (c : Catalog) (attempts : List Attempt) :
    attempts.foldl attempt c = (attempts.map Attempt.entry).foldl insert c := by
  rw [List.foldl_map]
  exact List.foldl_ext _ _ _ fun c a _ => c.attempt_eq_insert a

/-- The entries of a catalog are those accepted, in order. -/
theorem entries_foldl_attempt (c : Catalog) (attempts : List Attempt) :
    (attempts.foldl attempt c).entries = c.entries ++ c.accepted attempts := by
  induction attempts generalizing c with
  | nil => exact (List.append_nil _).symm
  | cons a attempts ih =>
    rw [List.foldl_cons, ih, accepted, attempt_eq_insert, ← List.append_assoc]
    by_cases h : a.entry.name ∈ c.names
    · rw [insert_of_mem h, add_of_mem h]
      simp [Except.isOk, Except.toBool]
    · rw [insert_of_not_mem h, add_of_not_mem h]
      simp [Except.isOk, Except.toBool]

/-- Names stay distinct with one entry more if its name is new. -/
theorem nodup_concat_iff {es : List CatalogEntry} :
    ((es ++ [e]).map (·.name)).Nodup ↔ (es.map (·.name)).Nodup ∧ e.name ∉ es.map (·.name) := by
  rw [List.map_append, List.map_singleton, List.nodup_append_comm, List.singleton_append, List.nodup_cons, and_comm]

theorem nodup_insert (h : c.names.Nodup) (e : CatalogEntry) : (c.insert e).names.Nodup := by
  by_cases hm : e.name ∈ c.names
  · rwa [insert_of_mem hm]
  · rw [insert_of_not_mem hm]
    exact nodup_concat_iff.2 ⟨h, hm⟩

theorem nodup_foldl_insert (h : c.names.Nodup) (es : List CatalogEntry) : (es.foldl insert c).names.Nodup := by
  induction es generalizing c with
  | nil => exact h
  | cons e es ih => exact ih (nodup_insert h e)

/-- Insertion adds the first entry of each name that is not there yet. -/
theorem entries_foldl_insert (c : Catalog) (es : List CatalogEntry) :
    (es.foldl insert c).entries =
      c.entries ++ (es.filter (·.name ∉ c.names)).eraseDupsBy fun a b => a.name == b.name := by
  induction es generalizing c with
  | nil => exact (List.append_nil _).symm
  | cons e es ih =>
    rw [List.foldl_cons, ih]
    by_cases h : e.name ∈ c.names
    · rw [insert_of_mem h, List.filter_cons_of_neg (by simpa using h)]
    · rw [insert_of_not_mem h, List.filter_cons_of_pos (by simpa using h), List.eraseDupsBy_cons, List.filter_filter,
        List.append_assoc, List.singleton_append]
      -- of the other entries, those stay whose name is neither in the catalog nor that of the new entry
      congr 3
      refine List.filter_congr fun d _ => ?_
      by_cases hd : d.name = e.name <;> simp [names, hd]

/-! ## Lists of entries -/

theorem ofEntries_of_nodup {es : List CatalogEntry} (h : (es.map (·.name)).Nodup) : ofEntries es = .ok ⟨es⟩ := by
  induction es using List.reverseRecOn with
  | nil => rfl
  | append_singleton es e ih =>
    obtain ⟨hes, hnew⟩ := nodup_concat_iff.1 h
    unfold ofEntries at ih ⊢
    rw [List.foldlM_append, ih hes]
    show ([e].foldlM add ⟨es⟩ : Except CatalogError Catalog) = _
    rw [List.foldlM_cons, add_of_not_mem hnew]
    rfl

/-- The entry `e` of a list is the first that repeats the name of an entry before it. -/
def FirstRepeat (es : List CatalogEntry) (e : CatalogEntry) : Prop :=
  ∃ before after, es = before ++ e :: after ∧ (before.map (·.name)).Nodup ∧ e.name ∈ before.map (·.name)

theorem exists_firstRepeat {es : List CatalogEntry} (h : ¬ (es.map (·.name)).Nodup) : ∃ e, FirstRepeat es e := by
  induction es using List.reverseRecOn with
  | nil => exact absurd List.nodup_nil h
  | append_singleton es e ih =>
    by_cases hes : (es.map (·.name)).Nodup
    · refine ⟨e, es, [], rfl, hes, ?_⟩
      by_contra hm
      exact h (nodup_concat_iff.2 ⟨hes, hm⟩)
    · obtain ⟨d, before, after, rfl, hb, hd⟩ := ih hes
      exact ⟨d, before, after ++ [e], by simp, hb, hd⟩

theorem ofEntries_of_firstRepeat {es : List CatalogEntry} {e : CatalogEntry} (h : FirstRepeat es e) :
    ofEntries es = .error (.duplicateEntry e.name) := by
  obtain ⟨before, after, rfl, hb, he⟩ := h
  have hok := ofEntries_of_nodup hb
  unfold ofEntries at hok ⊢
  rw [List.foldlM_append, hok]
  show ((e :: after).foldlM add ⟨before⟩ : Except CatalogError Catalog) = _
  rw [List.foldlM_cons, add_of_mem he]
  rfl

theorem ofEntries_eq_ok_iff {es : List CatalogEntry} {c : Catalog} :
    ofEntries es = .ok c ↔ (es.map (·.name)).Nodup ∧ c.entries = es := by
  constructor
  · intro h
    refine ⟨?_, entries_of_ofEntries h⟩
    by_contra hn
    obtain ⟨e, he⟩ := exists_firstRepeat hn
    rw [ofEntries_of_firstRepeat he] at h
    cases h
  · rintro ⟨hn, rfl⟩
    exact ofEntries_of_nodup hn

theorem ofEntries_eq_error_iff {es : List CatalogEntry} {error : CatalogError} :
    ofEntries es = .error error ↔ ∃ e, FirstRepeat es e ∧ error = .duplicateEntry e.name := by
  constructor
  · intro h
    have hn : ¬ (es.map (·.name)).Nodup := by
      intro hn
      rw [ofEntries_of_nodup hn] at h
      cases h
    obtain ⟨e, he⟩ := exists_firstRepeat hn
    rw [ofEntries_of_firstRepeat he] at h
    cases h
    exact ⟨e, he, rfl⟩
  · rintro ⟨e, he, rfl⟩
    exact ofEntries_of_firstRepeat he

/-! ## Answers -/

/-- How a catalog answers for a name, in terms of its entries in the order of registration. -/
structure AnswersFrom (c : Catalog) (entries : List CatalogEntry) (name : String) : Prop where
  /-- A quoted name finds the entry of just that name. -/
  quoted : ∀ e, c.find? (.quoted name) = some e ↔ e ∈ entries ∧ e.name = name
  /-- A bare name finds the first entry of that name when case is ignored. -/
  bare : ∀ e, c.find? (.bare name) = some e ↔ ∃ before after, entries = before ++ e :: after ∧
    Text.eqIgnoreCase name e.name = true ∧ ∀ d ∈ before, Text.eqIgnoreCase name d.name = false
  /-- The case of a bare name does not count. -/
  caseless : ∀ other, Text.eqIgnoreCase name other = true → c.find? (.bare other) = c.find? (.bare name)
  /-- What a quoted name finds, a bare name finds too, or else an entry before it. -/
  notLater : ∀ (i : Nat) (e : CatalogEntry), c.find? (.quoted name) = some e → entries[i]? = some e →
    ∃ j ≤ i, ∃ d, entries[j]? = some d ∧ c.find? (.bare name) = some d

theorem find?_quoted (h : c.names.Nodup) (name : String) :
    c.find? (.quoted name) = some e ↔ e ∈ c.entries ∧ e.name = name := by
  constructor
  · intro hf
    refine ⟨List.mem_of_find?_eq_some hf, ?_⟩
    have hn := List.find?_some hf
    rw [Identifier.names_quoted, beq_iff_eq] at hn
    exact hn.symm
  · rintro ⟨hm, rfl⟩
    obtain ⟨before, after, hs⟩ := List.append_of_mem hm
    refine List.find?_eq_some_iff_append.2 ⟨?_, before, after, hs, ?_⟩
    · exact beq_iff_eq.2 rfl
    · -- an entry before has another name
      intro d hd
      unfold names at h
      rw [hs, List.map_append, List.nodup_append] at h
      have hne := h.2.2 d.name (List.mem_map_of_mem hd) e.name (List.mem_map_of_mem List.mem_cons_self)
      rw [Identifier.names_quoted, Bool.not_eq_true', beq_eq_false_iff_ne]
      exact hne.symm

theorem find?_bare (name : String) : c.find? (.bare name) = some e ↔ ∃ before after, c.entries = before ++ e :: after ∧
    Text.eqIgnoreCase name e.name = true ∧ ∀ d ∈ before, Text.eqIgnoreCase name d.name = false := by
  unfold find?
  simp only [List.find?_eq_some_iff_append, Identifier.names_bare, Bool.not_eq_true']
  constructor
  · rintro ⟨he, before, after, hs, hb⟩
    exact ⟨before, after, hs, he, hb⟩
  · rintro ⟨before, after, hs, he, hb⟩
    exact ⟨he, before, after, hs, hb⟩

theorem find?_bare_congr {name other : String} (h : Text.eqIgnoreCase name other = true) :
    c.find? (.bare other) = c.find? (.bare name) := by
  unfold find?
  congr 1
  funext e
  rw [Identifier.names_bare, Identifier.names_bare, Bool.eq_iff_iff, Text.eqIgnoreCase_iff, Text.eqIgnoreCase_iff,
    Text.eqIgnoreCase_iff.1 h]

/-- The entry that a bare name finds comes before every other of that name. -/
theorem find?_bare_of_getElem? {name : String} {i : Nat} (hi : c.entries[i]? = some e)
    (he : Text.eqIgnoreCase name e.name = true) :
    ∃ j ≤ i, ∃ d, c.entries[j]? = some d ∧ c.find? (.bare name) = some d := by
  have hsome : (c.find? (.bare name)).isSome = true := List.find?_isSome.2 ⟨e, List.mem_of_getElem? hi, he⟩
  obtain ⟨d, hd⟩ := Option.isSome_iff_exists.1 hsome
  obtain ⟨-, j, hj, rfl, hbefore⟩ := List.find?_eq_some_iff_getElem.1 hd
  refine ⟨j, ?_, _, List.getElem?_eq_getElem hj, hd⟩
  by_contra hlt
  obtain ⟨_, rfl⟩ := List.getElem?_eq_some_iff.1 hi
  have hnot := hbefore i (Nat.not_le.1 hlt)
  rw [Identifier.names_bare, he] at hnot
  cases hnot

/-- A catalog with distinct names answers from its entries. -/
theorem answersFrom_entries (h : c.names.Nodup) (name : String) : c.AnswersFrom c.entries name where
  quoted _ := find?_quoted h name
  bare _ := find?_bare name
  caseless _ := find?_bare_congr
  notLater i e hf hi := by
    obtain ⟨-, rfl⟩ := (find?_quoted h name).1 hf
    exact find?_bare_of_getElem? hi (Text.eqIgnoreCase_refl e.name)

/-- After any attempts to register entries, a catalog has distinct names, and its entries are those accepted. One more
attempt is refused exactly if the name is there, and then changes nothing. A catalog of a list of entries is had exactly
if their names are distinct; else the first repeated name is reported. Inserting a list of entries keeps the first of
each name. From the entries accepted, a quoted name finds the one of just that name and a bare name the first one. -/
theorem attempted_first (attempts : List Attempt) (es : List CatalogEntry) (name : String) :
    (attempted attempts).names.Nodup ∧
    (attempted attempts).entries = accepted {} attempts ∧
    (∀ a : Attempt,
      if a.entry.name ∈ (attempted attempts).names then
        (attempted attempts).add a.entry = .error (.duplicateEntry a.entry.name) ∧
          attempted (attempts ++ [a]) = attempted attempts
      else attempted (attempts ++ [a]) = ⟨(attempted attempts).entries ++ [a.entry]⟩) ∧
    (∀ c, ofEntries es = .ok c ↔ (es.map (·.name)).Nodup ∧ c.entries = es) ∧
    (∀ error, ofEntries es = .error error ↔ ∃ e, FirstRepeat es e ∧ error = .duplicateEntry e.name) ∧
    (es.foldl insert {}).entries = es.eraseDupsBy (fun a b => a.name == b.name) ∧
    (attempted attempts).AnswersFrom (accepted {} attempts) name := by
  have hnodup : (attempted attempts).names.Nodup := by
    unfold attempted
    rw [foldl_attempt]
    exact nodup_foldl_insert (c := {}) List.nodup_nil _
  have hentries : (attempted attempts).entries = accepted {} attempts := entries_foldl_attempt {} attempts
  refine ⟨hnodup, hentries, fun a => ?_, fun _ => ofEntries_eq_ok_iff, fun _ => ofEntries_eq_error_iff, ?_,
    hentries ▸ answersFrom_entries hnodup name⟩
  · have hnext : attempted (attempts ++ [a]) = (attempted attempts).insert a.entry := by
      unfold attempted
      rw [List.foldl_append, List.foldl_cons, List.foldl_nil, attempt_eq_insert]
    rw [hnext]
    split
    · exact ⟨add_of_mem ‹_›, insert_of_mem ‹_›⟩
    · exact insert_of_not_mem ‹_›
  · have hall : es.filter (·.name ∉ (Catalog.mk []).names) = es := List.filter_eq_self.2 fun e _ => by simp [names]
    have hfold := entries_foldl_insert {} es
    rwa [hall, List.nil_append] at hfold

end NestedQuery.Catalog
