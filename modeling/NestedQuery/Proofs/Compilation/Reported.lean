/-
Which undefined variables are reported where none is allowed: those that the plan refers to. All that a query or a call
is made of has a part in the plan. A batch of mutations can have expressions that have none, and an undefined variable
in such an expression goes unreported.
-/
import NestedQuery.Proofs.Compilation.Grounded
import NestedQuery.Proofs.Logical.Course
import NestedQuery.Proofs.Syntax.Variables

namespace NestedQuery

open Logical (IsRepetition Keeps build_isRepetition build_records exists_mem_of_forall₂ keeps_of_stands)
open Syntax (marked)

/-- The name names no local, and the catalog does not know it. -/
structure Undefined (catalog : Lookup) (locals : List Local) (name : Identifier) : Prop where
  local_ne : ∀ l ∈ locals, name.names l.name.text = false
  catalog_eq : catalog name = none

/-- The problem that nothing is found for a variable. -/
def Syntax.Var.undefined (v : Syntax.Var) : Problem := ⟨v.location, .undefined v.name⟩

theorem Fault.undefined_inj {i j : Identifier} (h : Fault.undefined i = .undefined j) : i = j := by
  obtain ⟨text, rule⟩ := i
  obtain ⟨text', rule'⟩ := j
  unfold Fault.undefined at h
  cases rule <;> cases rule' <;> cases h <;> rfl

theorem undefined_not_isRepetition (v : Syntax.Var) : ¬ IsRepetition v.undefined := by
  rintro ⟨name, location, h⟩
  cases h

/-! ## References -/

/-- An undefined name is bound to nothing. -/
theorem Resolved.isResolved_of_undefined {c : Context} {r : Reference} (hu : c.allowUndefined = false)
    (h : Undefined c.catalog c.locals r.name) : (binding c r).isResolved = false := by
  rw [Bool.eq_false_iff]
  intro hr
  have hg := grounded_binding hu hr
  generalize hb : binding c r = b at hg
  have hn : r.name = b.name := congrArg Binding.name hb
  rw [hn] at h
  cases hg with
  | global hc =>
    rw [h.catalog_eq] at hc
    cases hc
  | loc hi hl =>
    rw [h.local_ne _ (List.getElem_mem hi)] at hl
    cases hl

section Plan

variable (s : Syntax.Statement)

theorem keeps_build :
    List.Forall₂ (Keeps (LogicalPlan.build s).1) s.references (LogicalPlan.build s).1.statement.vars := by
  obtain ⟨r, hr⟩ := build_records s
  rw [← Plan.Statement.itemVars_outline]
  exact keeps_of_stands hr.locals hr.part.stands s.outline_role

/-- Every variable of the outline is referred to. -/
theorem exists_reference {v : Syntax.Var} (h : v ∈ marked s.outline) :
    ∃ r ∈ (LogicalPlan.build s).1.statement.vars, r.name = v.name ∧ r.location = v.location := by
  obtain ⟨m, hm, hv⟩ := List.mem_filterMap.1 h
  have hr : m ∈ s.references := by
    refine List.mem_filter.2 ⟨hm, ?_⟩
    cases m with
    | var | target => rfl
    | generated | select | rows => cases hv
  obtain ⟨r, hr, hk⟩ := exists_mem_of_forall₂ (keeps_build s).flip hr
  cases hk with
  | var => cases hv; exact ⟨_, hr, rfl, rfl⟩
  | generated => cases hv
  | target => cases hv; exact ⟨_, hr, rfl, rfl⟩

/-- Whatever is referred to is a variable of the outline, unless it is a local. -/
theorem exists_marked {r : Reference} (h : r ∈ (LogicalPlan.build s).1.statement.vars)
    (hl : ∀ l ∈ (LogicalPlan.build s).1.locals, r.name.names l.name.text = false) :
    ∃ v ∈ marked s.outline, v.name = r.name ∧ v.location = r.location := by
  obtain ⟨m, hm, hk⟩ := exists_mem_of_forall₂ (keeps_build s) h
  have hm := (List.mem_filter.1 hm).1
  cases hk with
  | @var v => exact ⟨v, List.mem_filterMap.2 ⟨_, hm, rfl⟩, rfl, rfl⟩
  | @generated d scope hd =>
    have hn : (d.reference scope).name.names d.toLocal.name.text = true := Identifier.names_text _
    rw [hl _ (List.mem_of_getElem? hd)] at hn
    cases hn
  | @target v => exact ⟨v, List.mem_filterMap.2 ⟨_, hm, rfl⟩, rfl, rfl⟩

end Plan

/-! ## Compilations -/

namespace Compiler

variable {c : Compiler} {s : Syntax.Statement}

theorem mem_problems_iff (hu : c.config.allowUndefined = false) {v : Syntax.Var}
    (hv : Undefined c.catalog (c.compile s).locals v.name) :
    v.undefined ∈ (c.compile s).problems ↔ ∃ w ∈ marked s.outline, w.name = v.name ∧ w.location = v.location := by
  rw [compile_problems, List.mem_append, compile_resolved, Plan.Statement.vars_map, List.flatMap_map, List.mem_flatMap]
  constructor
  · rintro (h | ⟨r, hr, h⟩)
    · exact absurd (build_isRepetition s _ h) (undefined_not_isRepetition v)
    · unfold Binding.faults at h
      split at h
      · cases h
      · have he := List.mem_singleton.1 h
        have hn : r.name = v.name := (Fault.undefined_inj (congrArg Problem.fault he)).symm
        have hl : r.location = v.location := (congrArg Problem.location he).symm
        rw [← hn, ← hl]
        exact exists_marked s hr (hn ▸ hv.local_ne)
  · rintro ⟨w, hw, hn, hl⟩
    obtain ⟨r, hr, hrn, hrl⟩ := exists_reference s hw
    have hrv : r.name = v.name := hrn.trans hn
    have hb : (Resolved.binding (c.context s) r).isResolved = false :=
      Resolved.isResolved_of_undefined hu (hrv ▸ hv)
    refine .inr ⟨r, hr, ?_⟩
    unfold Binding.faults Syntax.Var.undefined
    rw [hb, ← hrv, ← hl, ← hrl]
    exact List.mem_singleton_self _

/-- Where no undefined variable is allowed, one is reported if the statement uses it, and only if it stands in an
expression that the statement uses or names a collection of a batch. -/
theorem compile_reports (c : Compiler) (s : Syntax.Statement) (hu : c.config.allowUndefined = false) :
    (∀ v ∈ s.used, Undefined c.catalog (c.compile s).locals v.name → v.undefined ∈ (c.compile s).problems) ∧
      ∀ v : Syntax.Var, Undefined c.catalog (c.compile s).locals v.name → v.undefined ∈ (c.compile s).problems →
        ∃ w ∈ s.used ++ s.collections, w.name = v.name ∧ w.location = v.location := by
  constructor
  · intro v hv hd
    exact (mem_problems_iff hu hd).2 ⟨v, (s.mem_marked_outline v).2 (.inl hv), rfl, rfl⟩
  · intro v hd hp
    obtain ⟨w, hw, h⟩ := (mem_problems_iff hu hd).1 hp
    exact ⟨w, List.mem_append.2 ((s.mem_marked_outline w).1 hw), h⟩

/-- `UPDATE t SET t.a = missing`: the value is used, and what is reported is the value. -/
theorem compile_reports_updateMissing :
    let c : Compiler := { catalog := (Catalog.mk Sample.shopTables).lookup }
    let v : Syntax.Var := .bare "missing" ⟨1, 20⟩
    let s : Syntax.Statement := .dml ⟨[.set [⟨.ofFields (.bare "t" ⟨1, 14⟩) ["a"], .var v⟩]],
      some ⟨.bare "t" ⟨1, 8⟩, none, none, none, none⟩, ⟨1, 1⟩⟩
    v ∈ s.used ∧ Undefined c.catalog (c.compile s).locals v.name ∧ v.undefined ∈ (c.compile s).problems ∧
      ∃ w ∈ s.used ++ s.collections, w.name = v.name ∧ w.location = v.location := by
  intro c v s
  have hv : v ∈ s.used := by decide
  have hd : Undefined c.catalog (c.compile s).locals v.name := ⟨by decide, by decide⟩
  obtain ⟨hu, hp⟩ := compile_reports c s rfl
  exact ⟨hv, hd, hu v hv hd, hp v hd (hu v hv hd)⟩

end Compiler

namespace Sample

/-- `SET t.a = missing` without a source. -/
def editWithoutSource : Syntax.Statement :=
  .dml ⟨[.set [⟨.ofFields (.bare "t" ⟨1, 5⟩) ["a"], .bare "missing" ⟨1, 11⟩⟩]], none, ⟨1, 1⟩⟩

/-- `FROM t WHERE missing` with nothing to do. -/
def sourceWithoutEdit : Syntax.Statement :=
  .dml ⟨[], some ⟨.bare "t" ⟨1, 6⟩, none, none, none, some (.bare "missing" ⟨1, 14⟩)⟩, ⟨1, 1⟩⟩

end Sample

/-- Not every undefined variable of a statement is reported: neither the value of an edit without a source is, nor the
condition of a source without an edit. -/
theorem Compiler.compile_unreported :
    let c : Compiler := { catalog := (Catalog.mk Sample.shopTables).lookup }
    ∀ s ∈ [Sample.editWithoutSource, Sample.sourceWithoutEdit],
      ∃ v ∈ s.written, Undefined c.catalog (c.compile s).locals v.name ∧ (c.compile s).problems = [] := by
  intro c s hs
  rw [List.mem_cons, List.mem_singleton] at hs
  rcases hs with rfl | rfl
  · exact ⟨.bare "missing" ⟨1, 11⟩, by decide, ⟨by decide, by decide⟩, by decide⟩
  · exact ⟨.bare "missing" ⟨1, 14⟩, by decide, ⟨by decide, by decide⟩, by decide⟩

end NestedQuery
