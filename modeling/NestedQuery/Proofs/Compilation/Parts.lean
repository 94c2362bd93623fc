/-
The parts of a compilation in terms of the statement and the catalog. The resolved plan has the shape of the plan
that is built, and each of its references is bound by itself. The problems are those of building and then those of
the bindings. There is a physical plan exactly if the catalog knows the target of every mutation, whatever the
other references stand for.
-/
import NestedQuery.Compilation
import NestedQuery.Proofs.Logical.References
import NestedQuery.Proofs.Resolved.Pointwise

namespace NestedQuery

/-! ## Targets of mutations -/

namespace Plan.Statement

variable {V W : Type}

/-- The collections that the mutations of a statement change. -/
def targets : Statement V → List V
  | .dml mutations => mutations.map (·.target)
  | _ => []

theorem targets_map (g : V → W) (s : Statement V) : (s.map g).targets = s.targets.map g := by
  cases s with
  | dml mutations =>
    simp only [map, targets, List.map_map]
    rfl
  | query | dmlCommands | exec => rfl

theorem occurrence_of_target {s : Statement V} {v : V} (h : v ∈ s.targets) : ⟨v, true⟩ ∈ s.occurrences := by
  cases s with
  | dml mutations =>
    obtain ⟨m, hm, rfl⟩ := List.mem_map.1 h
    have ho : .target m.target ∈ (Statement.dml mutations).outline :=
      List.mem_flatMap.2 ⟨m, hm, List.mem_cons_self⟩
    exact List.mem_filterMap.2 ⟨_, ho, rfl⟩
  | query | dmlCommands | exec => cases h

end Plan.Statement

/-- Every target of a plan that is built has the role of a target. -/
theorem role_of_target (s : Syntax.Statement) {x : Reference}
    (h : x ∈ (LogicalPlan.build s).1.statement.targets) : x.role = .dmlTarget :=
  (Logical.role_of_occurrence s (Plan.Statement.occurrence_of_target h)).2 rfl

/-- A target is an entity of the catalog or nothing. -/
theorem Resolved.answer_target (c : Resolved.Context) {x : Reference} (h : x.role = .dmlTarget) :
    Resolved.answer c x = Resolved.global? c x := by
  unfold Resolved.answer
  rw [h]

theorem Resolved.globalId?_target (c : Resolved.Context) {x : Reference} (h : x.role = .dmlTarget) :
    (Resolved.binding c x).globalId? = c.catalog x.name := by
  unfold Binding.globalId? Resolved.binding
  rw [Resolved.answer_target c h, Resolved.global?]
  cases c.catalog x.name <;> rfl

/-! ## Making a plan ready -/

namespace Physical

variable (strategy : Plan.Strategy)

theorem commands_ok_iff : ∀ {ms : List (Plan.Mutation Binding)},
    (∃ cs, commands strategy ms = .ok cs) ↔ ∀ m ∈ ms, m.target.globalId?.isSome = true
  | [] => by simp [commands]
  | m :: ms => by
    rw [List.forall_mem_cons, ← commands_ok_iff]
    cases hid : m.target.globalId? with
    | none => simp [commands, command, hid, bind, Except.bind]
    | some id =>
      cases hcs : commands strategy ms <;> simp [commands, command, hid, hcs, bind, Except.bind, pure, Except.pure]

/-- A plan can be made ready exactly if all its targets have an id in the catalog. -/
theorem statement_ok_iff {s : Plan.Statement Binding} :
    (∃ x, statement strategy s = .ok x) ↔ ∀ b ∈ s.targets, b.globalId?.isSome = true := by
  cases s with
  | dml mutations =>
    rw [Plan.Statement.targets, List.forall_mem_map, ← commands_ok_iff strategy]
    cases hcs : commands strategy mutations <;> simp [statement, hcs, bind, Except.bind, pure, Except.pure]
  | query | dmlCommands | exec => exact iff_of_true ⟨_, rfl⟩ nofun

end Physical

namespace Compiler

variable (c : Compiler) (s : Syntax.Statement)

/-- What the references of a statement are bound by. -/
def context : Resolved.Context := (LogicalPlan.build s).1.context c.catalog c.config.allowUndefined

theorem compile_resolved :
    (c.compile s).resolved = (LogicalPlan.build s).1.statement.map (Resolved.binding (c.context s)) :=
  LogicalPlan.resolve_statement ..

theorem compile_shape : (c.compile s).resolved.shape = (LogicalPlan.build s).1.statement.shape := by
  rw [compile_resolved, Plan.Statement.shape_map]

theorem compile_problems : (c.compile s).problems =
    (LogicalPlan.build s).2 ++ (c.compile s).resolved.vars.flatMap Binding.faults :=
  LogicalPlan.resolve_problems ..

/-- A plan can be made ready, with its locals, exactly if the catalog knows all its targets. -/
theorem lower_ok_iff : (∃ x, (c.analyse s).1.lower c.strategy = .ok ⟨x, (c.analyse s).1.locals⟩) ↔
    ∀ x ∈ (LogicalPlan.build s).1.statement.targets, (c.catalog x.name).isSome = true := by
  have hs : (∃ x, (c.analyse s).1.lower c.strategy = .ok ⟨x, (c.analyse s).1.locals⟩) ↔
      ∃ x, Physical.statement c.strategy (c.compile s).resolved = .ok x := by
    show _ ↔ ∃ x, Physical.statement c.strategy (c.analyse s).1.statement = .ok x
    cases hx : Physical.statement c.strategy (c.analyse s).1.statement <;>
      simp [ResolvedPlan.lower, hx, bind, Except.bind, pure, Except.pure]
  rw [hs, Physical.statement_ok_iff, compile_resolved, Plan.Statement.targets_map, List.forall_mem_map]
  refine forall₂_congr fun x hx => ?_
  rw [Resolved.globalId?_target _ (role_of_target s hx)]
  rfl

theorem compile_physical : (c.compile s).physical.isSome = true ↔
    ∀ x ∈ (LogicalPlan.build s).1.statement.targets, (c.catalog x.name).isSome = true := by
  rw [← lower_ok_iff]
  cases hx : Physical.statement c.strategy (c.analyse s).1.statement <;>
    simp [compile, ResolvedPlan.lower, hx, bind, Except.bind, pure, Except.pure]

end Compiler

end NestedQuery
