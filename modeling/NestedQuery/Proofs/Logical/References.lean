/-
The references of a plan. Building loses, repeats, moves and alters nothing: in the order of reading, a plan refers
to the variables of its statement in the order in which the clauses take effect. In between, at the projection of
its block, stand the references that `SELECT *` is made of. Only the target of a mutation has the role of a target.
-/
import NestedQuery.Proofs.Logical.Built
import NestedQuery.Proofs.Plan.Shape
import NestedQuery.Proofs.Syntax.Roles

namespace NestedQuery

/-- The mark stands for a reference, not for a block. -/
def Syntax.Mark.isReference : Syntax.Mark → Bool
  | .select _ => false
  | .rows .. => false
  | _ => true

/-- What a statement refers to, in the order in which its clauses take effect. -/
def Syntax.Statement.references (s : Syntax.Statement) : List Syntax.Mark := s.outline.filter (·.isReference)

namespace Logical

open Plan (Item Occurrence)
open Scope (Recorder Sees)
open Syntax (Mark)

/-- What a reference of a plan keeps of what is written at its place. -/
inductive Keeps (plan : LogicalPlan) : Mark → Reference → Prop
  /-- A variable keeps its name, qualifier and location, and has the role of its place. -/
  | var {v : Syntax.Var} {role : Role} {scope : Nat} : role ≠ .dmlTarget →
      Keeps plan (.var v role) ⟨v.name, v.qualifier, role, scope, v.location⟩
  /-- A reference that nobody writes is made for a local of the plan. -/
  | generated {d : Declaration} {scope : Nat} : plan.locals[d.index]? = some d.toLocal →
      Keeps plan (.generated d.name) (d.reference scope)
  | target {v : Syntax.Var} {scope : Nat} :
      Keeps plan (.target v) ⟨v.name, v.qualifier, .dmlTarget, scope, v.location⟩

theorem Seen.has {r : Recorder} {scope : Nat} {group : List Declaration} (h : Seen r scope group) {d : Declaration}
    (hd : d ∈ group) : r.Has d := by
  obtain ⟨rest, outer, h⟩ := h
  generalize he : Lexical.Env.mk (group :: rest) outer = env at h
  cases h with
  | root => cases he
  | block => cases he
  | group _ _ _ _ _ hg =>
    cases he
    exact hg d hd

theorem exists_mem_of_forall₂ {α β : Type} {R : α → β → Prop} {as : List α} {bs : List β} (h : List.Forall₂ R as bs)
    {b : β} (hb : b ∈ bs) : ∃ a ∈ as, R a b := by
  induction h with
  | nil => cases hb
  | @cons a _ as _ hr _ ih =>
    rcases List.mem_cons.1 hb with rfl | hb
    · exact ⟨a, List.mem_cons_self, hr⟩
    · obtain ⟨a', ha, hr⟩ := ih hb
      exact ⟨a', List.mem_cons_of_mem a ha, hr⟩

/-- The places that are references keep what is written there. -/
theorem keeps_of_stands {r : Recorder} {plan : LogicalPlan} (hp : r.locals = plan.locals) {marks : List Mark}
    {items : List (Item Reference)} (h : List.Forall₂ (Stands r) marks items)
    (hr : ∀ v, .var v .dmlTarget ∉ marks) :
    List.Forall₂ (Keeps plan) (marks.filter (·.isReference)) (Plan.itemVars items) := by
  induction h with
  | nil => exact .nil
  | cons hs _ ih =>
    have ih := ih fun v hv => hr v (List.mem_cons_of_mem _ hv)
    cases hs with
    | @var v role =>
      refine .cons (.var ?_) ih
      rintro rfl
      exact hr v List.mem_cons_self
    | generated hg hd => exact .cons (.generated (hp ▸ hg.has hd)) ih
    | target => exact .cons .target ih
    | select | edited | deleted | inserting | insertingValue => exact ih

/-- The references of a built plan with the role of a target are the targets of its mutations. -/
theorem role_of_occurrence (s : Syntax.Statement) {x : Occurrence Reference}
    (h : x ∈ (LogicalPlan.build s).1.statement.occurrences) : x.var.role = .dmlTarget ↔ x.isTarget = true := by
  obtain ⟨r, hr⟩ := build_records s
  obtain ⟨i, hi, hx⟩ := List.mem_filterMap.1 h
  obtain ⟨m, hm, hs⟩ := exists_mem_of_forall₂ hr.part.stands hi
  cases hs with
  | @var v role =>
    cases hx
    refine iff_of_false ?_ Bool.false_ne_true
    rintro rfl
    exact s.outline_role v hm
  | generated => cases hx; exact iff_of_false nofun Bool.false_ne_true
  | target => cases hx; exact iff_of_true rfl rfl
  | select | edited | deleted | inserting | insertingValue => cases hx

end Logical

open Logical (Keeps build_records exists_mem_of_forall₂ keeps_of_stands)

/-- The references of a plan are what its statement refers to, place by place. Without mutations none of them has
the role of a target. -/
theorem LogicalPlan.build_keeps (s : Syntax.Statement) :
    let plan := (LogicalPlan.build s).1
    List.Forall₂ (Keeps plan) s.references plan.statement.vars ∧
      ((∀ m, s ≠ .dml m) → ∀ x ∈ plan.statement.vars, x.role ≠ .dmlTarget) := by
  intro plan
  obtain ⟨r, hr⟩ := build_records s
  have hk : List.Forall₂ (Keeps plan) s.references plan.statement.vars := by
    rw [← Plan.Statement.itemVars_outline]
    exact keeps_of_stands hr.locals hr.part.stands s.outline_role
  refine ⟨hk, fun hs x hx => ?_⟩
  obtain ⟨m, hm, hx⟩ := exists_mem_of_forall₂ hk hx
  cases hx with
  | var h => exact h
  | generated => exact nofun
  | @target v => exact absurd rfl ((Syntax.Statement.plain_outline hs _ (List.mem_filter.1 hm).1).1 v)

/-- In `SELECT VALUE o FROM orders AS o, o.items AS i WHERE i.qty > 1` only `orders` is a whole source. -/
theorem LogicalPlan.build_keeps_ordersWithItems :
    List.Forall₂ (Keeps (LogicalPlan.build Sample.ordersWithItems).1)
        [.var (.bare "orders" ⟨1, 21⟩) .fromSource, .var (.bare "o" ⟨1, 34⟩) .expression,
          .var (.bare "i" ⟨1, 53⟩) .expression, .var (.bare "o" ⟨1, 14⟩) .expression]
        (LogicalPlan.build Sample.ordersWithItems).1.statement.vars ∧
      ∀ x ∈ (LogicalPlan.build Sample.ordersWithItems).1.statement.vars, x.role ≠ .dmlTarget :=
  have h := LogicalPlan.build_keeps Sample.ordersWithItems
  ⟨h.1, h.2 fun _ h => nomatch h⟩

end NestedQuery
