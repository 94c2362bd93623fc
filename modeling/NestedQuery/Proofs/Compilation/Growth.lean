/-
A catalog that grows. If a catalog answers whatever another answers, and the same, then a statement compiled with it
keeps all that was bound before. What was not found may be an entity now, so problems can only go away, and what
could be executed still can.
-/
import NestedQuery.Proofs.Catalog.Registration
import NestedQuery.Proofs.Compilation.Parts
import NestedQuery.Proofs.Resolved.Outcome
import NestedQuery.Sample.Catalogs

namespace NestedQuery

/-- The binding does not wait for the time of execution and did not fail. -/
def Binding.isStatic (b : Binding) : Bool := b.meaning.any Meaning.isStatic

/-- The catalog answers whatever the smaller one answers, and the same. -/
def Lookup.Extends (large small : Lookup) : Prop := ∀ name id, small name = some id → large name = some id

/-- What becomes of a binding when the catalog knows more. -/
inductive Gains (catalog : Lookup) : Binding → Binding → Prop
  | same {b : Binding} : Gains catalog b b
  /-- Only what was not bound becomes an entity. -/
  | found {b : Binding} {id : String} : b.isStatic = false → catalog b.name = some id →
      Gains catalog b ⟨b.name, some (.global id), b.location⟩

namespace Gains

variable {catalog : Lookup}

theorem faults {a b : Binding} (h : Gains catalog a b) : b.faults.Sublist a.faults := by
  cases h with
  | same => exact List.Sublist.refl _
  | found => exact List.nil_sublist _

theorem flatMap_faults {as bs : List Binding} (h : List.Forall₂ (Gains catalog) as bs) :
    (bs.flatMap Binding.faults).Sublist (as.flatMap Binding.faults) := by
  induction h with
  | nil => exact List.Sublist.refl _
  | cons hab _ ih =>
    rw [List.flatMap_cons, List.flatMap_cons]
    exact hab.faults.append ih

end Gains

namespace Resolved

/-- What is deferred is not static. -/
theorem isStatic_of_deferred? {c : Context} {r : Reference} : (deferred? c r).any Meaning.isStatic = false := by
  unfold deferred? dynamic?
  split
  · rfl
  · split <;> rfl

end Resolved

namespace LogicalPlan

variable (p : LogicalPlan) {large small : Lookup} (allowUndefined : Bool)

theorem gains_binding (h : large.Extends small) (r : Reference) :
    Gains large (Resolved.binding (p.context small allowUndefined) r)
      (Resolved.binding (p.context large allowUndefined) r) := by
  -- the locals and what is deferred do not depend on the catalog
  have hl : Resolved.foundLocal? (p.context large allowUndefined) r =
    Resolved.foundLocal? (p.context small allowUndefined) r := rfl
  have hd : Resolved.deferred? (p.context large allowUndefined) r =
    Resolved.deferred? (p.context small allowUndefined) r := rfl
  unfold Resolved.binding
  rw [Resolved.answer_eq, Resolved.answer_eq, Resolved.found?, Resolved.found?, hl, hd]
  cases Resolved.foundLocal? (p.context small allowUndefined) r with
  | some index => exact .same
  | none =>
    unfold Resolved.foundEntity?
    split
    · show Gains large ⟨_, (Option.map _ (small r.name)).or _, _⟩ ⟨_, (Option.map _ (large r.name)).or _, _⟩
      cases hs : small r.name with
      | some id =>
        rw [h _ _ hs]
        exact .same
      | none =>
        cases hn : large r.name with
        | some id => exact .found Resolved.isStatic_of_deferred? hn
        | none => exact .same
    · exact .same

end LogicalPlan

namespace Compiler

variable {large small : Lookup} (config : Config) (strategy : Plan.Strategy) (s : Syntax.Statement)

theorem gains_compile (h : large.Extends small) :
    List.Forall₂ (Gains large) ((Compiler.mk small config strategy).compile s).resolved.vars
      ((Compiler.mk large config strategy).compile s).resolved.vars := by
  rw [compile_resolved, compile_resolved, Plan.Statement.vars_map, Plan.Statement.vars_map,
    List.forall₂_map_left_iff, List.forall₂_map_right_iff, List.forall₂_same]
  intro r _
  exact (LogicalPlan.build s).1.gains_binding config.allowUndefined h r

/-- Problems can only go away. -/
theorem problems_sublist (h : large.Extends small) :
    ((Compiler.mk large config strategy).compile s).problems.Sublist
      ((Compiler.mk small config strategy).compile s).problems := by
  rw [compile_problems, compile_problems]
  exact (List.Sublist.refl _).append (Gains.flatMap_faults (gains_compile config strategy s h))

theorem physical_isSome (h : large.Extends small)
    (hp : ((Compiler.mk small config strategy).compile s).physical.isSome = true) :
    ((Compiler.mk large config strategy).compile s).physical.isSome = true := by
  rw [compile_physical] at hp ⊢
  intro x hx
  obtain ⟨id, hid⟩ := Option.isSome_iff_exists.1 (hp x hx)
  exact Option.isSome_iff_exists.2 ⟨id, h _ _ hid⟩

end Compiler

open Compiler (gains_compile problems_sublist physical_isSome)

/-- Registering more entries keeps every binding to a local or an entity. Any other binding stays as it is or
becomes an entity, the problems that remain are in order, and a physical plan remains possible. -/
theorem Compiler.compile_ofEntries_append {entries more : List CatalogEntry} {small large : Catalog}
    (hs : Catalog.ofEntries entries = .ok small) (hl : Catalog.ofEntries (entries ++ more) = .ok large)
    (config : Config) (strategy : Plan.Strategy) (s : Syntax.Statement) :
    let before := (Compiler.mk small.lookup config strategy).compile s
    let after := (Compiler.mk large.lookup config strategy).compile s
    after.locals = before.locals ∧ after.resolved.shape = before.resolved.shape ∧
      List.Forall₂ (Gains large.lookup) before.resolved.vars after.resolved.vars ∧
      after.problems.Sublist before.problems ∧
      (before.physical.isSome = true → after.physical.isSome = true) := by
  intro before after
  have h : Lookup.Extends large.lookup small.lookup := fun _ _ hn => Catalog.lookup_of_ofEntries_append hs hl hn
  refine ⟨rfl, ?_, gains_compile config strategy s h, problems_sublist config strategy s h,
    physical_isSome config strategy s h⟩
  rw [compile_shape, compile_shape]

/-- `INSERT INTO t << foo, bar >>`, when the catalog has `Foo` and then also `foo` and `t`: `foo` still stands for the
entity registered first, the target is found, and only `bar` is reported. -/
theorem Compiler.compile_ofEntries_append_insert :
    let entries := [Sample.tableWithId "Foo" "1"]
    let more := [Sample.tableWithId "foo" "2", Sample.tableWithId "t" "3"]
    let s := (Syntax.Mutation.empty.addOp (.insert (.bare "t" ⟨1, 13⟩)
      (.collection .bag [.bare "foo" ⟨1, 18⟩, .bare "bar" ⟨1, 23⟩]))).toStatement
    Catalog.ofEntries entries = .ok ⟨entries⟩ ∧ Catalog.ofEntries (entries ++ more) = .ok ⟨entries ++ more⟩ ∧
      List.Forall₂ (Gains (Catalog.mk (entries ++ more)).lookup)
        [⟨.bare "t", none, ⟨1, 13⟩⟩, ⟨.bare "foo", some (.global "1"), ⟨1, 18⟩⟩, ⟨.bare "bar", none, ⟨1, 23⟩⟩]
        [⟨.bare "t", some (.global "3"), ⟨1, 13⟩⟩, ⟨.bare "foo", some (.global "1"), ⟨1, 18⟩⟩,
          ⟨.bare "bar", none, ⟨1, 23⟩⟩] ∧
      ((Compiler.mk (Catalog.mk (entries ++ more)).lookup {} .default).compile s).problems.Sublist
        [⟨⟨1, 13⟩, .undefined (.bare "t")⟩, ⟨⟨1, 23⟩, .undefined (.bare "bar")⟩] := by
  intro entries more s
  have hs : Catalog.ofEntries entries = .ok ⟨entries⟩ := by decide
  have hl : Catalog.ofEntries (entries ++ more) = .ok ⟨entries ++ more⟩ := by decide
  obtain ⟨-, -, hb, hp, -⟩ := Compiler.compile_ofEntries_append hs hl {} .default s
  have before : ((Compiler.mk (Catalog.mk entries).lookup {} .default).compile s).resolved.vars =
      [⟨.bare "t", none, ⟨1, 13⟩⟩, ⟨.bare "foo", some (.global "1"), ⟨1, 18⟩⟩,
        ⟨.bare "bar", none, ⟨1, 23⟩⟩] := by decide
  have after : ((Compiler.mk (Catalog.mk (entries ++ more)).lookup {} .default).compile s).resolved.vars =
      [⟨.bare "t", some (.global "3"), ⟨1, 13⟩⟩, ⟨.bare "foo", some (.global "1"), ⟨1, 18⟩⟩,
        ⟨.bare "bar", none, ⟨1, 23⟩⟩] := by decide
  rw [before, after] at hb
  rw [compile_problems (Compiler.mk (Catalog.mk entries).lookup {} .default), before] at hp
  exact ⟨hs, hl, hb, hp⟩

end NestedQuery
