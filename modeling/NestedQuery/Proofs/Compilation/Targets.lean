/-
The one thing that keeps a plan from being made ready: the target of a mutation has no id in the catalog. The first such
target of a batch is named in the error. When a statement is compiled, only a batch of mutations can have one, and it is
always among the problems, for a target is never bound to a local and never left to the time of execution.
-/
import NestedQuery.Proofs.Compilation.Parts
import NestedQuery.Proofs.Physical.Lowering

namespace NestedQuery

/-! ## Batches -/

namespace Physical

open Plan (Command Mutation Statement Strategy)

variable {s : Strategy} {m x : Mutation Binding} {ms : List (Mutation Binding)}

/-- The mutation is the first of a batch whose target has no id in the catalog. -/
def FirstUnbound (ms : List (Mutation Binding)) (m : Mutation Binding) : Prop :=
  ∃ before after, ms = before ++ m :: after ∧ (∀ b ∈ before, b.target.globalId?.isSome = true) ∧
    m.target.globalId? = none

theorem firstUnbound_cons_of_none (hm : m.target.globalId? = none) : FirstUnbound (m :: ms) x ↔ x = m := by
  constructor
  · rintro ⟨before, after, hs, hb, -⟩
    cases before with
    | nil => exact (List.cons_eq_cons.1 hs).1.symm
    | cons b before =>
      obtain ⟨rfl, -⟩ := List.cons_eq_cons.1 hs
      have hsome := hb m List.mem_cons_self
      rw [hm] at hsome
      cases hsome
  · rintro rfl
    exact ⟨[], ms, rfl, List.forall_mem_nil _, hm⟩

theorem firstUnbound_cons_of_isSome (hm : m.target.globalId?.isSome = true) :
    FirstUnbound (m :: ms) x ↔ FirstUnbound ms x := by
  constructor
  · rintro ⟨before, after, hs, hb, hx⟩
    cases before with
    | nil =>
      obtain ⟨rfl, -⟩ := List.cons_eq_cons.1 hs
      rw [hx] at hm
      cases hm
    | cons b before =>
      obtain ⟨rfl, rfl⟩ := List.cons_eq_cons.1 hs
      exact ⟨before, after, rfl, fun b h => hb b (List.mem_cons_of_mem _ h), hx⟩
  · rintro ⟨before, after, rfl, hb, hx⟩
    exact ⟨m :: before, after, rfl, List.forall_mem_cons.2 ⟨hm, hb⟩, hx⟩

/-- A batch is given up at the first target that has no id. -/
theorem commands_eq_error_iff {error : LoweringError} : commands s ms = .error error ↔
    ∃ x, FirstUnbound ms x ∧ error = .unresolvedTarget x.target.name.text x.target.location := by
  induction ms with
  | nil =>
    constructor
    · intro h
      cases h
    · rintro ⟨x, ⟨before, after, hs, -⟩, -⟩
      simp at hs
  | cons m ms ih =>
    cases hm : m.target.globalId? with
    | none =>
      have hc : commands s (m :: ms) = .error (.unresolvedTarget m.target.name.text m.target.location) := by
        simp [commands, command, hm, bind, Except.bind]
      simp only [hc, firstUnbound_cons_of_none hm, exists_eq_left, Except.error.injEq]
      exact eq_comm
    | some id =>
      have hc : commands s (m :: ms) = .error error ↔ commands s ms = .error error := by
        cases hr : commands s ms <;> simp [commands, command, hm, hr, bind, Except.bind, pure, Except.pure]
      have hsome : m.target.globalId?.isSome = true := by rw [hm]; rfl
      simp only [hc, ih, firstUnbound_cons_of_isSome hsome]

theorem statement_eq_error {statement : Statement Binding} {error : LoweringError}
    (h : Physical.statement s statement = .error error) :
    ∃ ms, statement = .dml ms ∧ commands s ms = .error error := by
  cases statement with
  | dml ms =>
    cases hc : commands s ms with
    | ok cs =>
      rw [Physical.statement, hc] at h
      cases h
    | error e =>
      rw [Physical.statement, hc] at h
      cases h
      exact ⟨ms, rfl, hc⟩
  | query | dmlCommands | exec => cases h

theorem lower_dml (ms : List (Mutation Binding)) (locals : List Local) (s : Strategy) :
    (ResolvedPlan.mk (.dml ms) locals).lower s = (commands s ms).map fun cs => ⟨.dmlCommands cs, locals⟩ := by
  unfold ResolvedPlan.lower Physical.statement
  cases hc : commands s ms <;> simp only [hc] <;> rfl

theorem lower_dml_eq_error_iff {locals : List Local} {error : LoweringError} :
    (ResolvedPlan.mk (.dml ms) locals).lower s = .error error ↔ commands s ms = .error error := by
  rw [lower_dml]
  cases commands s ms <;> simp [Except.map]

/-- There is a first target without an id where there is one at all. -/
theorem exists_error_iff : (∃ error, commands s ms = .error error) ↔ ∃ m ∈ ms, m.target.globalId? = none := by
  constructor
  · rintro ⟨error, he⟩
    obtain ⟨m, ⟨before, after, rfl, -, hm⟩, -⟩ := commands_eq_error_iff.1 he
    exact ⟨m, List.mem_append_right _ List.mem_cons_self, hm⟩
  · rintro ⟨m, hmem, hm⟩
    cases hc : commands s ms with
    | error error => exact ⟨error, rfl⟩
    | ok cs =>
      have hsome := (commands_ok_iff s).1 ⟨cs, hc⟩ m hmem
      rw [hm] at hsome
      cases hsome

end Physical

/-! ## Compilations -/

namespace Compiler

open Physical (FirstUnbound)

variable (c : Compiler) (s : Syntax.Statement)

theorem physical_eq_none_iff : (c.compile s).physical = none ↔
    ∃ error, Physical.statement c.strategy (c.compile s).resolved = .error error := by
  show _ ↔ ∃ error, Physical.statement c.strategy (c.analyse s).1.statement = .error error
  cases h : Physical.statement c.strategy (c.analyse s).1.statement <;>
    simp [compile, ResolvedPlan.lower, h, bind, Except.bind, pure, Except.pure]

/-- A statement whose plan is a batch of mutations is one. -/
theorem exists_mutation_of_dml {ms : List (Plan.Mutation Binding)} (h : (c.compile s).resolved = .dml ms) :
    ∃ batch, s = .dml batch := by
  rw [compile_resolved] at h
  cases s with
  | dml batch => exact ⟨batch, rfl⟩
  | query expr => cases h
  | exec procedure args => cases h

/-- A target without an id stands for nothing at all. -/
theorem meaning_of_unbound {ms : List (Plan.Mutation Binding)} (h : (c.compile s).resolved = .dml ms)
    {m : Plan.Mutation Binding} (hm : m ∈ ms) (hid : m.target.globalId? = none) : m.target.meaning = none := by
  have ht : m.target ∈ (c.compile s).resolved.targets := by
    rw [h]
    exact List.mem_map_of_mem hm
  rw [compile_resolved, Plan.Statement.targets_map] at ht
  obtain ⟨x, hx, hb⟩ := List.mem_map.1 ht
  have hrole := role_of_target s hx
  rw [← hb, Resolved.globalId?_target _ hrole] at hid
  rw [← hb]
  show Resolved.answer (c.context s) x = none
  rw [Resolved.answer_target _ hrole, Resolved.global?, hid]
  rfl

/-- What stands for nothing is reported. -/
theorem mem_problems_of_meaning {b : Binding} (hb : b ∈ (c.compile s).resolved.vars) (h : b.meaning = none) :
    ⟨b.location, .undefined b.name⟩ ∈ (c.compile s).problems := by
  rw [compile_problems]
  refine List.mem_append_right _ (List.mem_flatMap.2 ⟨b, hb, ?_⟩)
  simp [Binding.faults, Binding.isResolved, h]

/-- Without a physical plan there is a batch, and its first target that has no id is reported. -/
theorem exists_firstUnbound (h : (c.compile s).physical = none) : ∃ batch ms m, s = .dml batch ∧
    (c.compile s).resolved = .dml ms ∧ FirstUnbound ms m ∧
    ⟨m.target.location, .undefined m.target.name⟩ ∈ (c.compile s).problems := by
  obtain ⟨error, he⟩ := (c.physical_eq_none_iff s).1 h
  obtain ⟨ms, hms, hc⟩ := Physical.statement_eq_error he
  obtain ⟨m, hm, -⟩ := Physical.commands_eq_error_iff.1 hc
  obtain ⟨batch, hbatch⟩ := c.exists_mutation_of_dml s hms
  refine ⟨batch, ms, m, hbatch, hms, hm, ?_⟩
  obtain ⟨before, after, rfl, -, hid⟩ := hm
  have hmem : m ∈ before ++ m :: after := List.mem_append_right _ List.mem_cons_self
  refine c.mem_problems_of_meaning s ?_ (c.meaning_of_unbound s hms hmem hid)
  rw [hms]
  exact List.mem_flatMap.2 ⟨m, hmem, List.mem_cons_self⟩

end Compiler

/-- A batch of mutations cannot be made ready exactly if a target has no id in the catalog, and the error names the
first such target and its place. Otherwise each mutation becomes one command, in order, with the name of its action and
the id of its target. A statement that is compiled without a physical plan is a batch of mutations whose first such
target is among the problems; every other statement has a physical plan. -/
theorem Compiler.compile_explains_lowering (ms : List (Plan.Mutation Binding)) (locals : List Local) (s : Plan.Strategy)
    (c : Compiler) (statement : Syntax.Statement) :
    ((∃ error, (ResolvedPlan.mk (.dml ms) locals).lower s = .error error) ↔ ∃ m ∈ ms, m.target.globalId? = none) ∧
    (∀ error, (ResolvedPlan.mk (.dml ms) locals).lower s = .error error →
      ∃ m, Physical.FirstUnbound ms m ∧ error = .unresolvedTarget m.target.name.text m.target.location) ∧
    ((∀ m ∈ ms, m.target.globalId? ≠ none) →
      ∃ cs, (ResolvedPlan.mk (.dml ms) locals).lower s = .ok ⟨.dmlCommands cs, locals⟩ ∧
        List.Forall₂ (fun m c => c.action = m.action.name ∧ m.target.globalId? = some c.targetId ∧
          c.rows = m.rows.fill s) ms cs) ∧
    ((c.compile statement).physical = none → ∃ batch ms m, statement = .dml batch ∧
      (c.compile statement).resolved = .dml ms ∧ Physical.FirstUnbound ms m ∧
      ⟨m.target.location, .undefined m.target.name⟩ ∈ (c.compile statement).problems) ∧
    ((∀ batch, statement ≠ .dml batch) → (c.compile statement).physical.isSome = true) := by
  refine ⟨?_, ?_, ?_, c.exists_firstUnbound statement, ?_⟩
  · simp only [Physical.lower_dml_eq_error_iff, Physical.exists_error_iff]
  · intro error he
    exact Physical.commands_eq_error_iff.1 (Physical.lower_dml_eq_error_iff.1 he)
  · intro hbound
    obtain ⟨cs, hcs⟩ := (Physical.commands_ok_iff s).2 fun m hm => Option.isSome_iff_ne_none.2 (hbound m hm)
    refine ⟨cs, ?_, ?_⟩
    · rw [Physical.lower_dml, hcs]
      rfl
    · refine (Physical.commands_eq_ok hcs).imp ?_
      rintro m _ ⟨id, hid, rfl⟩
      exact ⟨rfl, hid, rfl⟩
  · intro hother
    rw [Option.isSome_iff_ne_none]
    intro hnone
    obtain ⟨batch, _, _, hbatch, -⟩ := c.exists_firstUnbound statement hnone
    exact hother batch hbatch

end NestedQuery
