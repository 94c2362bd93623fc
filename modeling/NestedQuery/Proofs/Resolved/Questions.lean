/-
The questions that resolving puts to the catalog. Which references ask is fixed by the plan: no answer and no
setting changes the list. What is not asked cannot matter, so catalogs that answer the questions of a plan alike
resolve it alike.
-/
import NestedQuery.Proofs.Plan.Agreement
import NestedQuery.Proofs.Resolved.Outcome

namespace NestedQuery

namespace LogicalPlan

section Asks

variable (p : LogicalPlan)

/-- A reference puts a question to the catalog. -/
inductive Asks (r : Reference) : Prop
  /-- The target of a mutation does, whatever its qualifier. -/
  | target : r.role = .dmlTarget → Asks r
  /-- A FROM source without `@` does, whatever the locals. -/
  | source : r.role = .fromSource → r.qualifier = .default → Asks r
  /-- Any other name without `@` does if it is bound to no local. -/
  | unbound : r.role = .expression → r.qualifier = .default →
      (∀ index, ¬ p.scopes.Binds p.locals r.name r.scope index) → Asks r

/-- The names of the references that ask, in order. -/
inductive Poses : List Reference → List Identifier → Prop
  | nil : Poses [] []
  | asks {r : Reference} {rs : List Reference} {qs : List Identifier} : p.Asks r → Poses rs qs →
      Poses (r :: rs) (r.name :: qs)
  | silent {r : Reference} {rs : List Reference} {qs : List Identifier} : ¬ p.Asks r → Poses rs qs →
      Poses (r :: rs) qs

end Asks

variable {p : LogicalPlan} {catalog : Lookup} {allowUndefined : Bool}

/-! ## Which references ask -/

theorem posed_of_asks (h : p.scopes.Acyclic) {r : Reference} (ha : p.Asks r) :
    Resolved.posed (p.context catalog allowUndefined) r = [r.name] := by
  unfold Resolved.posed
  cases ha with
  | target hr => rw [hr]
  | source hr hq => rw [hr, hq]
  | unbound hr hq hn =>
    have hl : Resolved.local? (p.context catalog allowUndefined) r = none :=
      Option.map_eq_none_iff.2 ((Scope.Tree.findLocal?_eq_none_iff h).2 hn)
    rw [hr, hq, hl]
    rfl

theorem posed_of_not_asks (h : p.scopes.Acyclic) {r : Reference} (ha : ¬ p.Asks r) :
    Resolved.posed (p.context catalog allowUndefined) r = [] := by
  unfold Resolved.posed
  cases hr : r.role with
  | dmlTarget => exact absurd (.target hr) ha
  | fromSource =>
    cases hq : r.qualifier with
    | localsOnly => rfl
    | default => exact absurd (.source hr hq) ha
  | expression =>
    cases hq : r.qualifier with
    | localsOnly => rfl
    | default =>
      -- a name that is bound to no local would ask
      cases hl : Resolved.local? (p.context catalog allowUndefined) r with
      | some l => rfl
      | none =>
        have hn := (Scope.Tree.findLocal?_eq_none_iff h).1 (Option.map_eq_none_iff.1 hl)
        exact absurd (.unbound hr hq hn) ha

theorem poses_posed (h : p.scopes.Acyclic) : ∀ rs : List Reference,
    p.Poses rs (rs.flatMap (Resolved.posed (p.context catalog allowUndefined)))
  | [] => .nil
  | r :: rs => by
    rw [List.flatMap_cons]
    by_cases ha : p.Asks r
    · rw [posed_of_asks h ha]
      exact .asks ha (poses_posed h rs)
    · rw [posed_of_not_asks h ha]
      exact .silent ha (poses_posed h rs)

/-! ## Catalogs that answer alike -/

/-- A reference is bound alike by catalogs that answer its own question alike. -/
theorem answer_congr {catalog' : Lookup} {r : Reference}
    (h : ∀ q ∈ Resolved.posed (p.context catalog allowUndefined) r, catalog' q = catalog q) :
    Resolved.answer (p.context catalog' allowUndefined) r = Resolved.answer (p.context catalog allowUndefined) r := by
  -- neither the locals nor what is left to the time of execution depend on the catalog
  have hl : Resolved.local? (p.context catalog' allowUndefined) r =
    Resolved.local? (p.context catalog allowUndefined) r := rfl
  have hd : Resolved.dynamic? (p.context catalog' allowUndefined) r =
    Resolved.dynamic? (p.context catalog allowUndefined) r := rfl
  have hg : r.name ∈ Resolved.posed (p.context catalog allowUndefined) r →
      Resolved.global? (p.context catalog' allowUndefined) r =
        Resolved.global? (p.context catalog allowUndefined) r := fun hq => congrArg (Option.map _) (h _ hq)
  unfold Resolved.posed at hg
  unfold Resolved.answer
  rw [hl, hd]
  cases hr : r.role with
  | dmlTarget =>
    rw [hr] at hg
    exact hg (List.mem_singleton_self _)
  | fromSource =>
    cases hq : r.qualifier with
    | localsOnly => rfl
    | default =>
      rw [hr, hq] at hg
      exact congrArg (Option.or · _) (hg (List.mem_singleton_self _))
  | expression =>
    cases hq : r.qualifier with
    | localsOnly => rfl
    | default =>
      rw [hr, hq] at hg
      cases hm : Resolved.local? (p.context catalog allowUndefined) r with
      | some l => rfl
      | none =>
        rw [hm] at hg
        exact congrArg (Option.or · _) (hg (List.mem_singleton_self _))

theorem resolve_congr {catalog' : Lookup} {earlier : List Problem}
    (h : ∀ q ∈ (p.resolve catalog allowUndefined earlier).2.questions, catalog' q = catalog q) :
    p.resolve catalog' allowUndefined earlier = p.resolve catalog allowUndefined earlier := by
  rw [resolve_eq] at h
  have hb : Plan.AgreeOn (Resolved.binding (p.context catalog' allowUndefined))
      (Resolved.binding (p.context catalog allowUndefined)) p.statement.vars := by
    intro r hr
    unfold Resolved.binding
    rw [answer_congr fun q hq => h q (List.mem_flatMap.2 ⟨r, hr, hq⟩)]
  rw [resolve_eq, resolve_eq, p.statement.map_congr hb, List.map_congr_left hb]
  rfl

end LogicalPlan

open LogicalPlan (poses_posed resolve_congr)

/-- The questions of a plan are those of its references that ask, in the order of reading, whatever the catalog says
and whether undefined variables are allowed or not. Catalogs that answer these questions alike give the same
resolved plan and the same problems. -/
theorem LogicalPlan.resolve_questions (p : LogicalPlan) (h : p.scopes.Acyclic) :
    ∃ questions, p.Poses p.statement.vars questions ∧
      (∀ catalog allowUndefined earlier, (p.resolve catalog allowUndefined earlier).2.questions = questions) ∧
      ∀ catalog catalog' : Lookup, (∀ q ∈ questions, catalog q = catalog' q) →
        ∀ allowUndefined earlier,
          p.resolve catalog allowUndefined earlier = p.resolve catalog' allowUndefined earlier := by
  have hq : ∀ catalog allowUndefined earlier, (p.resolve catalog allowUndefined earlier).2.questions =
      p.statement.vars.flatMap (Resolved.posed (p.context (fun _ => none) false)) := by
    intro catalog allowUndefined earlier
    rw [resolve_eq]
    rfl
  refine ⟨_, poses_posed h p.statement.vars, hq, ?_⟩
  intro catalog catalog' hc allowUndefined earlier
  refine resolve_congr fun q hm => ?_
  rw [hq] at hm
  exact hc q hm

/-- The target asks though it is written with `@`, and so does the FROM source; the name of a local does not. A
catalog that knows the local's name therefore changes nothing. -/
theorem LogicalPlan.resolve_questions_strayPlan :
    strayPlan.scopes.Acyclic ∧ strayPlan.Poses strayPlan.statement.vars [.bare "t", .bare "y"] ∧
      ∀ allowUndefined, strayPlan.resolve (fun _ => none) allowUndefined [] =
        strayPlan.resolve (fun name => if name = .bare "X" then some "x" else none) allowUndefined [] := by
  obtain ⟨questions, hp, hq, hc⟩ := LogicalPlan.resolve_questions strayPlan strayPlan_acyclic
  obtain rfl : [.bare "t", .bare "y"] = questions := by
    rw [← hq (fun _ => none) true []]
    decide
  refine ⟨strayPlan_acyclic, hp, fun allowUndefined => hc _ _ ?_ allowUndefined []⟩
  decide

end NestedQuery
