/-
What resolving makes of any plan, also one that no builder makes. Each reference is settled by itself: a local of
its block comes first, then the catalog, where its role and qualifier let it look there; what is not found is left
to the time of execution or reported. All else of the plan stays as it is.
-/
import NestedQuery.Proofs.Plan.Shape
import NestedQuery.Proofs.Resolved.Pointwise
import NestedQuery.Proofs.Scope.Climb
import Mathlib.Data.List.Forall2

namespace NestedQuery

/-! ## Where a reference looks -/

namespace Reference

/-- A reference looks among the locals, unless it is the target of a mutation or a FROM source without `@`. -/
def looksAmongLocals (r : Reference) : Bool :=
  match r.role, r.qualifier with
  | .dmlTarget, _ => false
  | .fromSource, .default => false
  | _, _ => true

/-- A reference looks in the catalog, unless it is written with `@`. The target of a mutation does so always. -/
def looksInCatalog (r : Reference) : Bool :=
  match r.role, r.qualifier with
  | .dmlTarget, _ => true
  | _, .default => true
  | _, .localsOnly => false

end Reference

/-- A meaning that does not wait for the time of execution. -/
def Meaning.isStatic : Meaning → Bool
  | .global _ => true
  | .loc _ => true
  | .dynamic .. => false

namespace Resolved

section Found

variable (c : Context) (r : Reference)

def foundLocal? : Option Nat :=
  if r.looksAmongLocals then c.scopes.findLocal? c.locals r.name r.scope else none

def foundEntity? : Option String := if r.looksInCatalog then c.catalog r.name else none

/-- What is found for a reference, whether undefined variables are allowed or not. -/
def found? : Option Meaning := ((foundLocal? c r).map .loc).or ((foundEntity? c r).map .global)

/-- What a reference stands for if nothing is found for it. -/
def deferred? : Option Meaning := if r.role = .dmlTarget then none else dynamic? c r !r.looksAmongLocals

/-- A reference stands for what is found for it, and else is deferred if that is possible. -/
theorem answer_eq : answer c r = (found? c r).or (deferred? c r) := by
  unfold answer found? deferred? foundLocal? foundEntity? local? global? Reference.looksAmongLocals
    Reference.looksInCatalog
  cases r.role <;> cases r.qualifier <;> simp [Option.or_assoc]

variable {c r}

theorem isStatic_of_found? {m : Meaning} (h : found? c r = some m) : m.isStatic = true := by
  unfold found? at h
  rcases Option.or_eq_some_iff.1 h with h | ⟨-, h⟩
  · obtain ⟨index, -, rfl⟩ := Option.map_eq_some_iff.1 h
    rfl
  · obtain ⟨id, -, rfl⟩ := Option.map_eq_some_iff.1 h
    rfl

end Found

end Resolved

/-! ## Settling a reference -/

namespace LogicalPlan

section Settles

variable (p : LogicalPlan) (catalog : Lookup) (allowUndefined : Bool)

/-- A reference is bound to a local of the plan. -/
def BindsLocal (r : Reference) (index : Nat) : Prop :=
  r.looksAmongLocals = true ∧ p.scopes.Binds p.locals r.name r.scope index

/-- A reference is bound to an entity of the catalog. -/
def BindsEntity (r : Reference) (id : String) : Prop := r.looksInCatalog = true ∧ catalog r.name = some id

/-- What becomes of a reference. -/
inductive Settles : Reference → Binding → Prop
  /-- A local comes before all else. -/
  | loc {r : Reference} {index : Nat} : p.BindsLocal r index →
      Settles r ⟨r.name, some (.loc index), r.location⟩
  | global {r : Reference} {id : String} : (∀ index, ¬ p.BindsLocal r index) → BindsEntity catalog r id →
      Settles r ⟨r.name, some (.global id), r.location⟩
  /-- What is not found is left to the time of execution if that is allowed, with all locals on the way out. A
  reference that does not look among the locals asks the catalog first then. -/
  | dynamic {r : Reference} {frames : List Scope.Frame} : (∀ index, ¬ p.BindsLocal r index) →
      (∀ id, ¬ BindsEntity catalog r id) → allowUndefined = true → r.role ≠ .dmlTarget →
      p.scopes.Climbs (some r.scope) frames →
      Settles r ⟨r.name, some (.dynamic r.name (!r.looksAmongLocals) (frames.flatMap (·.locals.reverse))), r.location⟩
  /-- The target of a mutation is never left to the time of execution. -/
  | failed {r : Reference} : (∀ index, ¬ p.BindsLocal r index) → (∀ id, ¬ BindsEntity catalog r id) →
      allowUndefined = false ∨ r.role = .dmlTarget → Settles r ⟨r.name, none, r.location⟩

end Settles

variable {p : LogicalPlan} {catalog : Lookup} {allowUndefined : Bool} {r : Reference}

theorem foundLocal?_eq_some_iff (h : p.scopes.Acyclic) {index : Nat} :
    Resolved.foundLocal? (p.context catalog allowUndefined) r = some index ↔ p.BindsLocal r index := by
  unfold Resolved.foundLocal? BindsLocal
  rw [← Scope.Tree.findLocal?_eq_some_iff h, Option.ite_none_right_eq_some]
  rfl

theorem foundEntity?_eq_some_iff {id : String} :
    Resolved.foundEntity? (p.context catalog allowUndefined) r = some id ↔ BindsEntity catalog r id := by
  unfold Resolved.foundEntity? BindsEntity
  rw [Option.ite_none_right_eq_some]
  rfl

theorem settles_binding (h : p.scopes.Acyclic) (r : Reference) :
    p.Settles catalog allowUndefined r (Resolved.binding (p.context catalog allowUndefined) r) := by
  unfold Resolved.binding
  rw [Resolved.answer_eq, Resolved.found?]
  cases hl : Resolved.foundLocal? (p.context catalog allowUndefined) r with
  | some index => exact .loc ((foundLocal?_eq_some_iff h).1 hl)
  | none =>
    have hl' : ∀ index, ¬ p.BindsLocal r index := fun index hb => by
      rw [(foundLocal?_eq_some_iff h).2 hb] at hl
      cases hl
    cases he : Resolved.foundEntity? (p.context catalog allowUndefined) r with
    | some id => exact .global hl' (foundEntity?_eq_some_iff.1 he)
    | none =>
      have he' : ∀ id, ¬ BindsEntity catalog r id := fun id hb => by
        rw [foundEntity?_eq_some_iff.2 hb] at he
        cases he
      rw [Option.map_none, Option.map_none, Option.or_none, Option.none_or, Resolved.deferred?]
      by_cases hr : r.role = .dmlTarget
      · rw [if_pos hr]
        exact .failed hl' he' (.inr hr)
      · rw [if_neg hr, Resolved.dynamic?]
        cases allowUndefined with
        | false => exact .failed hl' he' (.inl rfl)
        | true => exact .dynamic hl' he' rfl hr (Scope.Tree.climbs_ancestors h r.scope)

end LogicalPlan

open LogicalPlan (settles_binding)

/-- Resolving keeps the shape and the locals of a plan, and settles its references one by one. The problems are
those from before and then one for each reference that failed, in the order of reading. -/
theorem LogicalPlan.resolve_settles (p : LogicalPlan) (h : p.scopes.Acyclic) (catalog : Lookup)
    (allowUndefined : Bool) (earlier : List Problem) :
    let resolved := p.resolve catalog allowUndefined earlier
    resolved.1.locals = p.locals ∧ resolved.1.statement.shape = p.statement.shape ∧
      List.Forall₂ (p.Settles catalog allowUndefined) p.statement.vars resolved.1.bindings ∧
      resolved.2.problems = earlier ++ resolved.1.bindings.flatMap Binding.faults := by
  intro resolved
  have hs : resolved.1.statement = p.statement.map (Resolved.binding (p.context catalog allowUndefined)) :=
    p.resolve_statement catalog allowUndefined earlier
  refine ⟨rfl, ?_, ?_, p.resolve_problems catalog allowUndefined earlier⟩
  · rw [hs, Plan.Statement.shape_map]
  · rw [ResolvedPlan.bindings, hs, Plan.Statement.vars_map, List.forall₂_map_right_iff, List.forall₂_same]
    exact fun r _ => settles_binding h r

/-- A plan that no builder makes: the id of its only frame is wrong, the parent of the frame is missing, and the
frame lists a local that is not there. -/
def strayPlan : LogicalPlan where
  statement := .dml [⟨.insert, ⟨.bare "t", .localsOnly, .dmlTarget, 0, {}⟩,
    .binary .add (.var ⟨.bare "X", .default, .expression, 0, {}⟩) (.var ⟨.bare "y", .default, .fromSource, 4, {}⟩)⟩]
  locals := [⟨.bare "x", 7⟩]
  scopes := ⟨[⟨3, some 9, .fromItem, [5, 0]⟩]⟩

theorem strayPlan_acyclic : strayPlan.scopes.Acyclic := by
  refine Scope.Tree.acyclic_of_rank id ?_
  rintro p (_ | i) ⟨f, hf, hp⟩
  · cases hf
    cases hp
    decide
  · cases hf

/-- The target fails though undefined variables are allowed; the other references do not. -/
theorem LogicalPlan.resolve_settles_strayPlan :
    strayPlan.scopes.Acyclic ∧
      List.Forall₂ (strayPlan.Settles (fun _ => none) true) strayPlan.statement.vars
        [⟨.bare "t", none, {}⟩, ⟨.bare "X", some (.loc 0), {}⟩, ⟨.bare "y", some (.dynamic (.bare "y") true []), {}⟩] ∧
      (strayPlan.resolve (fun _ => none) true []).2.problems = [⟨{}, .undefined (.bare "t")⟩] := by
  obtain ⟨-, -, hb, hp⟩ := LogicalPlan.resolve_settles strayPlan strayPlan_acyclic (fun _ => none) true []
  have he : (strayPlan.resolve (fun _ => none) true []).1.bindings = [⟨.bare "t", none, {}⟩,
      ⟨.bare "X", some (.loc 0), {}⟩, ⟨.bare "y", some (.dynamic (.bare "y") true []), {}⟩] := by decide
  rw [he] at hb hp
  exact ⟨strayPlan_acyclic, hb, hp⟩

end NestedQuery
