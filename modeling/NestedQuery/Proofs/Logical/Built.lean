/-
The plan of a statement: what the builder has recorded when it is done, and what follows for the locals. They
are numbered by their positions, every declaration in the plan is that of a local, and a plan without mutations
has each of its declarations once, in the order of their numbers.
-/
import NestedQuery.Logical.Build
import NestedQuery.Proofs.Logical.Batch
import NestedQuery.Sample.Statements
import Mathlib.Tactic.Push

namespace NestedQuery

namespace Logical

open Scope (Recorder)

/-- The plan stands for the statement, by what is recorded. -/
structure Records (r : Recorder) (s : Syntax.Statement) (plan : LogicalPlan) : Prop where
  tree : r.tree = plan.scopes
  locals : r.locals = plan.locals
  dense : plan.locals.map (·.index) = List.range plan.locals.length
  part : Part r s.outline plan.statement.outline plan.statement.decls

/-- A plan without mutations is made by one step, which starts with nothing recorded. -/
theorem planStatement_planned {s : Syntax.Statement} (hs : ∀ m, s ≠ .dml m) {x : Plan.Statement Reference}
    {s' : BuildState} (h : (planStatement s).run .start = (x, s')) :
    Planned .top .start s' s.outline x.outline x.decls := by
  cases s with
  | query expr =>
    obtain ⟨e, h1, rfl⟩ := run_map h
    exact planExpr_planned h1 at_start
  | dml m => exact absurd rfl (hs m)
  | exec procedure args =>
    obtain ⟨es, h1, rfl⟩ := run_map h
    exact planExprs_planned h1 at_start

theorem planStatement_part {s : Syntax.Statement} {x : Plan.Statement Reference} {s' : BuildState}
    (h : (planStatement s).run .start = (x, s')) :
    s'.scopes.locals.map (·.index) = List.range s'.scopes.locals.length ∧
      Part s'.scopes s.outline x.outline x.decls := by
  by_cases hs : ∀ m, s ≠ .dml m
  · have hp := planStatement_planned hs h
    exact ⟨hp.arrives.consistent.numbered, hp.part⟩
  · push Not at hs
    obtain ⟨m, rfl⟩ := hs
    obtain ⟨ms, h1, rfl⟩ := run_map h
    exact planMutation_planned h1 at_start

/-- Every plan that is built stands for its statement. -/
theorem build_records (s : Syntax.Statement) : ∃ r, Records r s (LogicalPlan.build s).1 := by
  obtain ⟨hd, hp⟩ := planStatement_part (s := s) rfl
  exact ⟨_, rfl, rfl, hd, hp⟩

end Logical

open Logical (build_records planStatement_planned)

/-- Locals are numbered by their positions. Every declaration in the plan has the number and the name of a local,
and without mutations the declarations, in the order in which they are made, are numbered from zero on. -/
theorem LogicalPlan.build_numbered (s : Syntax.Statement) :
    let plan := (LogicalPlan.build s).1
    (∀ i (h : i < plan.locals.length), plan.locals[i].index = i) ∧
      (∀ d ∈ plan.statement.decls, ∃ h : d.index < plan.locals.length, plan.locals[d.index].name = d.name) ∧
      ((∀ m, s ≠ .dml m) → plan.statement.decls.map (·.index) = List.range plan.locals.length) := by
  intro plan
  obtain ⟨r, hr⟩ := build_records s
  refine ⟨fun i hi => ?_, fun d hd => ?_, fun hs => ?_⟩
  · have h : (plan.locals.map (·.index))[i]? = some i := by rw [hr.dense, List.getElem?_range hi]
    rw [List.getElem?_map, List.getElem?_eq_getElem hi] at h
    exact Option.some.inj h
  · have h := hr.part.has d hd
    unfold Scope.Recorder.Has at h
    rw [hr.locals, List.getElem?_eq_some_iff] at h
    obtain ⟨hi, h⟩ := h
    exact ⟨hi, congrArg Local.name h⟩
  · have h : plan.locals = [] ++ plan.statement.decls.map Declaration.toLocal := (planStatement_planned hs rfl).locals
    rw [← hr.dense, h, List.nil_append, List.map_map]
    rfl

theorem LogicalPlan.build_numbered_ordersWithItems :
    (LogicalPlan.build Sample.ordersWithItems).1.statement.decls.map (·.index) = [0, 1] := by
  have hn : (LogicalPlan.build Sample.ordersWithItems).1.locals.length = 2 := by decide
  rw [(LogicalPlan.build_numbered Sample.ordersWithItems).2.2 fun _ h => nomatch h, hn]
  rfl

end NestedQuery
