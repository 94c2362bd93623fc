/-
A strict compilation is a compilation without problems. Making a plan ready for execution fails only where the
target of a mutation has no id in the catalog. The planner gives every target its role, and in that role a
reference is bound to an entity of the catalog or reported, so the failure never comes without a problem.
-/
import NestedQuery.Proofs.Compilation.Parts

namespace NestedQuery

/-- A binding for which nothing is reported stands for something. -/
theorem Binding.isResolved_of_faults {b : Binding} (h : b.faults = []) : b.isResolved = true := by
  unfold Binding.faults at h
  by_contra hn
  rw [if_neg hn] at h
  cases h

namespace Compiler

variable (c : Compiler) (s : Syntax.Statement)

/-- Without problems every reference stands for something. -/
theorem isResolved_of_problems_nil (h : (c.compile s).problems = []) {b : Binding}
    (hb : b ∈ (c.compile s).resolved.vars) : b.isResolved = true := by
  rw [compile_problems, List.append_eq_nil_iff, List.flatMap_eq_nil_iff] at h
  exact Binding.isResolved_of_faults (h.2 b hb)

/-- Without problems the catalog knows every target. -/
theorem isSome_of_target (h : (c.compile s).problems = []) {x : Reference}
    (hx : x ∈ (LogicalPlan.build s).1.statement.targets) : (c.catalog x.name).isSome = true := by
  have hv : x ∈ (LogicalPlan.build s).1.statement.vars := by
    rw [← Plan.Statement.map_var_occurrences]
    exact List.mem_map.2 ⟨_, Plan.Statement.occurrence_of_target hx, rfl⟩
  have hm : Resolved.binding (c.context s) x ∈ (c.compile s).resolved.vars := by
    rw [compile_resolved, Plan.Statement.vars_map]
    exact List.mem_map_of_mem hv
  have hb := c.isResolved_of_problems_nil s h hm
  unfold Binding.isResolved Resolved.binding at hb
  rw [Resolved.answer_target _ (role_of_target s hx), Resolved.global?, Option.isSome_map] at hb
  exact hb

/-- A plan without problems can be made ready, and keeps its locals. -/
theorem lower_ok (h : (c.analyse s).2.problems = []) :
    ∃ x, (c.analyse s).1.lower c.strategy = .ok ⟨x, (c.analyse s).1.locals⟩ :=
  (c.lower_ok_iff s).2 fun _ hx => c.isSome_of_target s h hx

theorem compile_of_problems_nil (h : (c.compile s).problems = []) :
    c.compileStrict s = .ok (c.compile s) ∧ (c.compile s).isExecutable = true := by
  have hp : (c.analyse s).2.problems = [] := h
  obtain ⟨x, hx⟩ := c.lower_ok s hp
  have hc : c.compile s = ⟨(c.analyse s).1.statement, (c.analyse s).1.locals, some x, []⟩ := by
    unfold compile
    simp only [hx, hp]
  rw [hc]
  refine ⟨?_, rfl⟩
  unfold compileStrict
  simp only [hx, hp]
  rfl

theorem compile_of_problems (h : (c.compile s).problems ≠ []) :
    c.compileStrict s = .error (.problems (c.compile s).problems) ∧ (c.compile s).isExecutable = false := by
  have hp : (c.analyse s).2.problems.isEmpty = false := by rwa [List.isEmpty_eq_false_iff]
  constructor
  · unfold compileStrict
    simp only [hp]
    rfl
  · unfold Compilation.isExecutable
    exact (congrArg _ hp).trans (Bool.and_false _)

/-- A strict compilation is the compilation if that has no problems, and else fails with its problems. It never
fails for want of a physical plan, and a compilation can be handed to an engine exactly if it has no problems. -/
theorem compileStrict_eq :
    (c.compileStrict s =
      match (c.compile s).problems with
      | [] => .ok (c.compile s)
      | ps => .error (.problems ps)) ∧
    (∀ e, c.compileStrict s ≠ .error (.lowering e)) ∧
    ((c.compile s).isExecutable = true ↔ (c.compile s).problems = []) := by
  by_cases h : (c.compile s).problems = []
  · obtain ⟨hs, hx⟩ := c.compile_of_problems_nil s h
    refine ⟨?_, fun e he => ?_, iff_of_true hx h⟩
    · rw [h, hs]
    · rw [hs] at he
      cases he
  · obtain ⟨hs, hx⟩ := c.compile_of_problems s h
    refine ⟨?_, fun e he => ?_, iff_of_false (Bool.eq_false_iff.1 hx) h⟩
    · rw [hs]
      split
      · exact absurd ‹_› h
      · rfl
    · rw [hs] at he
      cases he

end Compiler

end NestedQuery
