/-
Allowing undefined variables. Two compilations of a statement, one that allows them and one that does not, find
the same for every reference. They differ where nothing is found: there the one leaves a reference to the time of
execution that the other reports. The target of a mutation is reported by both, so both have a physical plan or
neither.
-/
import NestedQuery.Proofs.Compilation.Parts
import NestedQuery.Proofs.Resolved.Outcome

namespace NestedQuery

open Plan (Occurrence)

/-- What becomes of a binding when undefined variables are allowed. -/
inductive Relaxes : Occurrence Binding → Occurrence Binding → Prop
  /-- A local or an entity of the catalog stays what it is. -/
  | static {name : Identifier} {m : Meaning} {location : Location} {isTarget : Bool} : m.isStatic = true →
      Relaxes ⟨⟨name, some m, location⟩, isTarget⟩ ⟨⟨name, some m, location⟩, isTarget⟩
  /-- A target that failed fails again. -/
  | target {name : Identifier} {location : Location} :
      Relaxes ⟨⟨name, none, location⟩, true⟩ ⟨⟨name, none, location⟩, true⟩
  /-- Anything else that failed is left to the time of execution. -/
  | deferred {name : Identifier} {location : Location} {globalsFirst : Bool} {candidates : List Nat} :
      Relaxes ⟨⟨name, none, location⟩, false⟩ ⟨⟨name, some (.dynamic name globalsFirst candidates), location⟩, false⟩

namespace Relaxes

/-- Only a target is still reported. -/
theorem faults {a b : Occurrence Binding} (h : Relaxes a b) :
    b.var.faults = if a.isTarget then a.var.faults else [] := by
  cases h with
  | @static _ _ _ isTarget => cases isTarget <;> rfl
  | target => rfl
  | deferred => rfl

/-- The reports that remain are those of targets, in the same order. -/
theorem flatMap_faults {as bs : List (Occurrence Binding)} (h : List.Forall₂ Relaxes as bs) :
    bs.flatMap (·.var.faults) = (as.filter (·.isTarget)).flatMap (·.var.faults) := by
  induction h with
  | nil => rfl
  | @cons a b as bs hab _ ih =>
    rw [List.flatMap_cons, ih, hab.faults, List.filter_cons]
    split
    · rw [List.flatMap_cons]
    · rw [List.nil_append]

end Relaxes

namespace LogicalPlan

variable (p : LogicalPlan) (catalog : Lookup)

/-- Each reference by itself: what is found for it does not depend on whether undefined variables are allowed. -/
theorem relaxes_binding {x : Occurrence Reference} (h : x.var.role = .dmlTarget ↔ x.isTarget = true) :
    Relaxes (x.map (Resolved.binding (p.context catalog false)))
      (x.map (Resolved.binding (p.context catalog true))) := by
  obtain ⟨r, isTarget⟩ := x
  have hf : Resolved.found? (p.context catalog true) r = Resolved.found? (p.context catalog false) r := rfl
  unfold Occurrence.map Resolved.binding
  rw [Resolved.answer_eq, Resolved.answer_eq, hf]
  cases hm : Resolved.found? (p.context catalog false) r with
  | some m => exact .static (Resolved.isStatic_of_found? hm)
  | none =>
    unfold Resolved.deferred?
    cases isTarget with
    | true =>
      rw [if_pos (h.2 rfl), if_pos (h.2 rfl)]
      exact .target
    | false =>
      have hr : r.role ≠ .dmlTarget := fun hr => Bool.false_ne_true (h.1 hr)
      rw [if_neg hr, if_neg hr]
      exact .deferred

end LogicalPlan

namespace Compiler

/-- The same compiler, with undefined variables allowed or not. -/
def allowing (c : Compiler) (allowUndefined : Bool) : Compiler :=
  { c with config := { c.config with allowUndefined } }

theorem relaxes_compile (c : Compiler) (s : Syntax.Statement) :
    List.Forall₂ Relaxes ((c.allowing false).compile s).resolved.occurrences
      ((c.allowing true).compile s).resolved.occurrences := by
  rw [compile_resolved, compile_resolved, Plan.Statement.occurrences_map, Plan.Statement.occurrences_map,
    List.forall₂_map_left_iff, List.forall₂_map_right_iff, List.forall₂_same]
  intro x hx
  exact (LogicalPlan.build s).1.relaxes_binding c.catalog (Logical.role_of_occurrence s hx)

/-- The problems of a compilation, with the places of the bindings they are about. -/
theorem compile_problems_occurrences (c : Compiler) (s : Syntax.Statement) : (c.compile s).problems =
    (LogicalPlan.build s).2 ++ (c.compile s).resolved.occurrences.flatMap (·.var.faults) := by
  rw [compile_problems, ← Plan.Statement.map_var_occurrences, List.flatMap_map]

/-- Allowing undefined variables turns failures into references left to the time of execution, but for the targets
of mutations, and does nothing else. The problems that remain are those of building and those of targets. -/
theorem compile_allowing (c : Compiler) (s : Syntax.Statement) :
    let building := (LogicalPlan.build s).2
    let off := (c.allowing false).compile s
    let on := (c.allowing true).compile s
    on.locals = off.locals ∧ on.resolved.shape = off.resolved.shape ∧
      List.Forall₂ Relaxes off.resolved.occurrences on.resolved.occurrences ∧
      off.problems = building ++ off.resolved.occurrences.flatMap (·.var.faults) ∧
      on.problems = building ++ (off.resolved.occurrences.filter (·.isTarget)).flatMap (·.var.faults) ∧
      (on.physical.isSome = true ↔ off.physical.isSome = true) := by
  intro building off on
  have hb : List.Forall₂ Relaxes off.resolved.occurrences on.resolved.occurrences := c.relaxes_compile s
  refine ⟨rfl, ?_, hb, ?_, ?_, ?_⟩
  · rw [compile_shape, compile_shape]
  · exact (c.allowing false).compile_problems_occurrences s
  · rw [← Relaxes.flatMap_faults hb]
    exact (c.allowing true).compile_problems_occurrences s
  · rw [compile_physical, compile_physical]
    rfl

end Compiler

end NestedQuery
