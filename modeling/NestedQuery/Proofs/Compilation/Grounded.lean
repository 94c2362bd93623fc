/-
What a strict compilation refers to. Settings are refused if they are strict and allow undefined variables, so a
strict compiler leaves nothing to the time of execution, and what it does not find it reports. A compilation that it
gives has therefore no reference but to entities of the catalog and to its own locals, before and after the plan is
made ready.
-/
import NestedQuery.Proofs.Compilation.Strict
import NestedQuery.Proofs.Physical.Lowering
import NestedQuery.Proofs.Resolved.Outcome
import NestedQuery.Sample.Catalogs
import NestedQuery.Sample.Statements

namespace NestedQuery

/-- The binding stands for the entity that the catalog has under its name, or for a local that its name names. -/
inductive Binding.Grounded (catalog : Lookup) (locals : List Local) : Binding → Prop
  | global {name : Identifier} {id : String} {location : Location} : catalog name = some id →
      Grounded catalog locals ⟨name, some (.global id), location⟩
  | loc {name : Identifier} {index : Nat} {location : Location} (h : index < locals.length) :
      name.names locals[index].name.text = true → Grounded catalog locals ⟨name, some (.loc index), location⟩

/-! ## Bindings -/

namespace Resolved

variable {c : Context} {r : Reference}

theorem grounded_of_found? {m : Meaning} (h : found? c r = some m) :
    Binding.Grounded c.catalog c.locals ⟨r.name, some m, r.location⟩ := by
  unfold found? at h
  rcases Option.or_eq_some_iff.1 h with h | ⟨-, h⟩
  · obtain ⟨index, hl, rfl⟩ := Option.map_eq_some_iff.1 h
    unfold foundLocal? at hl
    rw [Option.ite_none_right_eq_some] at hl
    have hn := Scope.Tree.namesLocal_of_findLocal? hl.2
    unfold Scope.Tree.namesLocal at hn
    split at hn
    · next l hi =>
      obtain ⟨hlt, rfl⟩ := List.getElem?_eq_some_iff.1 hi
      exact .loc hlt hn
    · cases hn
  · obtain ⟨id, he, rfl⟩ := Option.map_eq_some_iff.1 h
    unfold foundEntity? at he
    rw [Option.ite_none_right_eq_some] at he
    exact .global he.2

/-- Where undefined variables are not allowed, a reference that stands for something is bound. -/
theorem grounded_binding (hu : c.allowUndefined = false) (h : (binding c r).isResolved = true) :
    (binding c r).Grounded c.catalog c.locals := by
  have hd : deferred? c r = none := by
    unfold deferred? dynamic?
    rw [hu]
    exact ite_self none
  unfold binding at h ⊢
  rw [answer_eq, hd, Option.or_none] at h ⊢
  obtain ⟨m, hm⟩ := Option.isSome_iff_exists.1 h
  have hm : found? c r = some m := hm
  rw [hm]
  exact grounded_of_found? hm

end Resolved

/-! ## Compilations -/

namespace Compiler

theorem ofConfig_eq_ok {catalog : Lookup} {config : Config} {c : Compiler} (h : ofConfig catalog config = .ok c) :
    c = { catalog, config } ∧ (config.strict && config.allowUndefined) = false := by
  unfold ofConfig Config.validate at h
  cases hb : config.strict && config.allowUndefined with
  | true =>
    rw [hb] at h
    cases h
  | false =>
    rw [hb] at h
    cases h
    exact ⟨rfl, rfl⟩

variable {c : Compiler} {s : Syntax.Statement}

theorem run_of_strict (h : c.config.strict = true) : c.run s = c.compileStrict s := if_pos h

/-- A compilation without problems refers to entities and to its own locals only, if undefined variables are not
allowed. -/
theorem grounded_resolved (hu : c.config.allowUndefined = false) (h : (c.compile s).problems = []) {b : Binding}
    (hb : b ∈ (c.compile s).resolved.vars) : b.Grounded c.catalog (c.compile s).locals := by
  have hr := c.isResolved_of_problems_nil s h hb
  rw [compile_resolved, Plan.Statement.vars_map] at hb
  obtain ⟨r, -, rfl⟩ := List.mem_map.1 hb
  exact Resolved.grounded_binding hu hr

/-- The references of a physical plan are references of the resolved plan. -/
theorem mem_resolved_of_mem_physical {x : Plan.Statement Binding} (h : (c.compile s).physical = some x) {b : Binding}
    (hb : b ∈ x.vars) : b ∈ (c.compile s).resolved.vars := by
  unfold compile at h
  cases hq : (c.analyse s).1.lower c.strategy with
  | error e =>
    simp only [hq] at h
    cases h
  | ok q =>
    simp only [hq] at h
    cases h
    rw [ResolvedPlan.vars_lower hq] at hb
    exact Plan.Statement.mem_vars_of_mem_rowVars hb

/-- What a strict compiler gives has no problems, and a physical plan; each reference of the resolved plan and of the
physical plan is bound to an entity of the catalog or to a local of the compilation that its name names. -/
theorem run_grounded {catalog : Lookup} {config : Config} {c : Compiler} (hc : ofConfig catalog config = .ok c)
    (hs : config.strict = true) (strategy : Plan.Strategy) (s : Syntax.Statement) {r : Compilation}
    (hr : { c with strategy }.run s = .ok r) :
    r.problems = [] ∧ (∀ b ∈ r.resolved.vars, b.Grounded catalog r.locals) ∧
      ∃ physical, r.physical = some physical ∧ ∀ b ∈ physical.vars, b.Grounded catalog r.locals := by
  obtain ⟨rfl, hu⟩ := ofConfig_eq_ok hc
  rw [hs, Bool.true_and] at hu
  rw [run_of_strict hs] at hr
  by_cases hp : (compile { catalog, config, strategy } s).problems = []
  · obtain ⟨hk, hx⟩ := compile_of_problems_nil { catalog, config, strategy } s hp
    obtain rfl : compile { catalog, config, strategy } s = r := Except.ok.inj (hk.symm.trans hr)
    unfold Compilation.isExecutable at hx
    rw [Bool.and_eq_true] at hx
    obtain ⟨x, hx⟩ := Option.isSome_iff_exists.1 hx.1
    have hb : ∀ b ∈ (compile { catalog, config, strategy } s).resolved.vars,
      b.Grounded catalog (compile { catalog, config, strategy } s).locals := fun b => grounded_resolved hu hp
    exact ⟨hp, hb, x, hx, fun b hm => hb b (mem_resolved_of_mem_physical hx hm)⟩
  · -- a strict compiler gives nothing where there are problems
    have hk := (compile_of_problems { catalog, config, strategy } s hp).1
    rw [hk] at hr
    cases hr

/-- In `UPDATE orders AS o SET o.status = 'shipped' WHERE o.id = 7` both mentions of `orders` are the table, and both
mentions of the row are the local `o`. -/
theorem run_grounded_updateOrders :
    let catalog := (Catalog.mk Sample.shopTables).lookup
    let config : Config := ⟨false, true⟩
    let r := compile { catalog, config } Sample.updateOrders
    ofConfig catalog config = .ok { catalog, config } ∧ run { catalog, config } Sample.updateOrders = .ok r ∧
      r.problems = [] ∧
      r.resolved.vars = [⟨.bare "orders", some (.global "shop.orders"), ⟨1, 8⟩⟩,
        ⟨.bare "orders", some (.global "shop.orders"), ⟨1, 8⟩⟩, ⟨.bare "o", some (.loc 0), ⟨1, 51⟩⟩,
        ⟨.quoted "o", some (.loc 0), ⟨1, 18⟩⟩] ∧
      (∀ b ∈ r.resolved.vars, b.Grounded catalog r.locals) ∧
      ∃ physical, r.physical = some physical ∧ ∀ b ∈ physical.vars, b.Grounded catalog r.locals := by
  intro catalog config r
  have hc : ofConfig catalog config = .ok { catalog, config } := rfl
  have hp : r.problems = [] := by decide
  have hr : run { catalog, config } Sample.updateOrders = .ok r := by
    rw [run_of_strict rfl]
    exact (compile_of_problems_nil { catalog, config } Sample.updateOrders hp).1
  exact ⟨hc, hr, hp, by decide, (run_grounded hc rfl .default Sample.updateOrders hr).2⟩

end Compiler

end NestedQuery
