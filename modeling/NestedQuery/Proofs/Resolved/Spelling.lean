/-
The case of a bare reference. Two plans that differ only in how some bare references are spelled, each in letters that
are the same when case is ignored, resolve alike: each reference comes to the same, and the same references are
reported. What differs is the names that are recorded for them. A bare name is compared in two places, with the locals
and with the names in the catalog, and both comparisons ignore case.
-/
import NestedQuery.Catalog.Basic
import NestedQuery.Proofs.Resolved.Outcome
import NestedQuery.Sample.Catalogs

namespace NestedQuery

/-! ## Spellings -/

/-- The identifiers are the same, but for the case of a bare one. -/
inductive Identifier.Respelled : Identifier → Identifier → Prop
  | same (i : Identifier) : Respelled i i
  | bare {a b : String} : Text.eqIgnoreCase a b = true → Respelled (.bare a) (.bare b)

/-- Both spellings name the same. -/
theorem Identifier.Respelled.names_eq {i j : Identifier} (h : Respelled i j) (text : String) :
    i.names text = j.names text := by
  cases h with
  | same => rfl
  | @bare a b h =>
    rw [names_bare, names_bare, Bool.eq_iff_iff]
    constructor
    · intro ha
      rw [Text.eqIgnoreCase_comm] at h
      exact Text.eqIgnoreCase_trans h ha
    · exact Text.eqIgnoreCase_trans h

/-- The references are the same, but for the spelling of a bare name. -/
structure Reference.Respelled (r q : Reference) : Prop where
  name : r.name.Respelled q.name
  rest : q = { r with name := q.name }

/-- The same is found, but for the spelling of a name that is left to the time of execution. -/
inductive Meaning.Respelled : Meaning → Meaning → Prop
  | same (m : Meaning) : Respelled m m
  | dynamic {i j : Identifier} (globalsFirst : Bool) (candidates : List Nat) : i.Respelled j →
      Respelled (.dynamic i globalsFirst candidates) (.dynamic j globalsFirst candidates)

structure Binding.Respelled (a b : Binding) : Prop where
  name : a.name.Respelled b.name
  meaning : Option.Rel Meaning.Respelled a.meaning b.meaning
  location : a.location = b.location

/-- The faults are the same, but for the spelling of a bare name that stands for nothing. -/
inductive Fault.Respelled : Fault → Fault → Prop
  | same (f : Fault) : Respelled f f
  | undefined {i j : Identifier} : i.Respelled j → Respelled (.undefined i) (.undefined j)

structure Problem.Respelled (p q : Problem) : Prop where
  location : p.location = q.location
  fault : p.fault.Respelled q.fault

/-- The plans are the same, but for the spellings of bare references. -/
structure LogicalPlan.Respelled (p q : LogicalPlan) : Prop where
  shape : p.statement.shape = q.statement.shape
  vars : List.Forall₂ Reference.Respelled p.statement.vars q.statement.vars
  locals : p.locals = q.locals
  scopes : p.scopes = q.scopes

/-! ## Lookups -/

section

variable {i j : Identifier}

theorem Scope.Tree.findLocal?_respelled (h : i.Respelled j) (t : Tree) (locals : List Local) (scope : Nat) :
    t.findLocal? locals i scope = t.findLocal? locals j scope := by
  have hn : namesLocal locals i = namesLocal locals j := by
    funext index
    unfold namesLocal
    simp only [h.names_eq]
  unfold findLocal?
  rw [hn]

theorem Catalog.lookup_respelled (h : i.Respelled j) (catalog : Catalog) : catalog.lookup i = catalog.lookup j := by
  unfold lookup find?
  simp only [h.names_eq]

end

namespace Resolved

/-- The answers of the catalog do not depend on the spelling of a bare name. -/
def IgnoresCase (catalog : Lookup) : Prop := ∀ i j : Identifier, i.Respelled j → catalog i = catalog j

variable {c : Context} {r q : Reference}

theorem found?_respelled (hc : IgnoresCase c.catalog) (h : r.Respelled q) : found? c r = found? c q := by
  obtain ⟨hn, hq⟩ := h
  have hl : foundLocal? c r = foundLocal? c q := by
    unfold foundLocal?
    rw [Scope.Tree.findLocal?_respelled hn, hq]
    rfl
  have he : foundEntity? c r = foundEntity? c q := by
    unfold foundEntity?
    rw [hc _ _ hn, hq]
    rfl
  unfold found?
  rw [hl, he]

theorem deferred?_respelled (h : r.Respelled q) : Option.Rel Meaning.Respelled (deferred? c r) (deferred? c q) := by
  obtain ⟨hn, hq⟩ := h
  rw [hq]
  unfold deferred? dynamic?
  split
  · exact .none
  · split
    · exact .some (.dynamic _ _ hn)
    · exact .none

theorem binding_respelled (hc : IgnoresCase c.catalog) (h : r.Respelled q) :
    (binding c r).Respelled (binding c q) := by
  refine ⟨h.name, ?_, by rw [h.rest]; rfl⟩
  show Option.Rel _ (answer c r) (answer c q)
  rw [answer_eq, answer_eq, found?_respelled hc h]
  cases found? c q with
  | none => exact deferred?_respelled h
  | some m => exact .some (.same m)

end Resolved

theorem Binding.faults_respelled {a b : Binding} (h : a.Respelled b) :
    List.Forall₂ Problem.Respelled a.faults b.faults := by
  obtain ⟨i, m, location⟩ := a
  obtain ⟨j, m', location'⟩ := b
  obtain ⟨hn, hm, hl⟩ := h
  cases hm with
  | none => exact .cons ⟨hl, .undefined hn⟩ .nil
  | some _ => exact .nil

/-- Plans that differ only in the spellings of bare references resolve to plans of one shape with the same locals, in
which each reference comes to the same, and the same is reported in the same order. -/
theorem LogicalPlan.resolve_respelled {p q : LogicalPlan} (h : p.Respelled q) (catalog : Catalog)
    (allowUndefined : Bool) (earlier : List Problem) :
    let a := p.resolve catalog.lookup allowUndefined earlier
    let b := q.resolve catalog.lookup allowUndefined earlier
    a.1.statement.shape = b.1.statement.shape ∧ a.1.locals = b.1.locals ∧
      List.Forall₂ Binding.Respelled a.1.bindings b.1.bindings ∧
      List.Forall₂ Problem.Respelled a.2.problems b.2.problems := by
  intro a b
  have hc : q.context catalog.lookup allowUndefined = p.context catalog.lookup allowUndefined := by
    unfold context
    rw [h.locals, h.scopes]
  have hb : List.Forall₂ Binding.Respelled a.1.bindings b.1.bindings := by
    rw [ResolvedPlan.bindings, ResolvedPlan.bindings, resolve_statement, resolve_statement, Plan.Statement.vars_map,
      Plan.Statement.vars_map, hc, List.forall₂_map_left_iff, List.forall₂_map_right_iff]
    exact h.vars.imp fun _ _ hr => Resolved.binding_respelled (fun _ _ hi => catalog.lookup_respelled hi) hr
  refine ⟨?_, h.locals, hb, ?_⟩
  · rw [resolve_statement, resolve_statement, Plan.Statement.shape_map, Plan.Statement.shape_map]
    exact h.shape
  · rw [resolve_problems, resolve_problems]
    refine List.rel_append (List.forall₂_same.2 fun x _ => ⟨rfl, .same _⟩) ?_
    exact List.rel_flatMap hb fun _ _ hx => Binding.faults_respelled hx

/-- A batch that changes a table, with a local in the frame that it looks from. One name is between quotes. -/
def Sample.spelled (table column other : String) : LogicalPlan where
  statement := .dml [⟨.replace, ⟨.bare table, .default, .dmlTarget, 0, ⟨1, 1⟩⟩,
    .collection .list [.var ⟨.bare column, .default, .expression, 0, ⟨1, 2⟩⟩,
      .var ⟨.quoted "FOO", .default, .expression, 0, ⟨1, 3⟩⟩, .var ⟨.bare other, .default, .fromSource, 0, ⟨1, 4⟩⟩]⟩]
  locals := [⟨.bare "x", 0⟩]
  scopes := ⟨[⟨0, none, .statement, [0]⟩]⟩

/-- Spelled in other letters, the batch changes the same table and reads the same local. The name between quotes is no
table in both, and neither is the last one. -/
theorem LogicalPlan.resolve_respelled_batch :
    let a := (Sample.spelled "foo" "x" "ou").resolve (Catalog.mk Sample.shopTables).lookup false []
    let b := (Sample.spelled "FOO" "X" "oU").resolve (Catalog.mk Sample.shopTables).lookup false []
    (Sample.spelled "foo" "x" "ou").Respelled (Sample.spelled "FOO" "X" "oU") ∧
      a.1.bindings.map Binding.meaning = [some (.global "shop.Foo"), some (.loc 0), none, none] ∧
      List.Forall₂ Binding.Respelled a.1.bindings b.1.bindings ∧
      List.Forall₂ Problem.Respelled a.2.problems b.2.problems ∧ b.2.problems.length = 2 := by
  intro a b
  have h : (Sample.spelled "foo" "x" "ou").Respelled (Sample.spelled "FOO" "X" "oU") := by
    refine ⟨rfl, ?_, rfl, rfl⟩
    exact .cons ⟨.bare (by decide), rfl⟩ (.cons ⟨.bare (by decide), rfl⟩
      (.cons ⟨.same _, rfl⟩ (.cons ⟨.bare (by decide), rfl⟩ .nil)))
  obtain ⟨-, -, hb, hp⟩ := LogicalPlan.resolve_respelled h (Catalog.mk Sample.shopTables) false []
  exact ⟨h, by decide, hb, hp, by decide⟩

end NestedQuery
