/-
The mutations that a batch under a source is planned as. The edits of a run make one update of the rows of the source,
and everything else makes one mutation of its own, in the order of the batch. The new row of an update is the row with
the edits of the run applied to it, the first one innermost. A mutation of the rows goes through the collection of the
source, with the condition of the source as a filter, and gives one value for each row.
-/
import NestedQuery.Proofs.Logical.Batch
import NestedQuery.Proofs.Logical.Embedding
import NestedQuery.Proofs.Syntax.Runs
import Mathlib.Data.Option.Basic

namespace NestedQuery

/-! ## Edits of a row -/

namespace Plan

variable {V : Type}

/-- A change of the part of a row at a list of keys: a new value, or the removal of the part. -/
structure PathEdit (V : Type) where
  keys : List (Expr V)
  value : Option (Expr V)

/-- Takes the calls of `set_path` and `remove_path` off a value: what is left, and the edits from the inside out. -/
def Expr.peel : Expr V → Expr V × List (PathEdit V)
  | .call "set_path" [row, .collection .list keys, value] => (row.peel.1, row.peel.2 ++ [⟨keys, some value⟩])
  | .call "remove_path" [row, .collection .list keys] => (row.peel.1, row.peel.2 ++ [⟨keys, none⟩])
  | e => (e, [])

theorem Expr.peel_var (v : V) : (Expr.var v).peel = (.var v, []) := by simp [Expr.peel]

end Plan

namespace Logical

open Syntax (Act)

def RowEdit.toPathEdit (edit : RowEdit) : Plan.PathEdit Reference := ⟨edit.keys, edit.value⟩

theorem peel_apply (edit : RowEdit) (row : Plan.Expr Reference) :
    (edit.apply row).peel = (row.peel.1, row.peel.2 ++ [edit.toPathEdit]) := by
  obtain ⟨root, keys, _ | value⟩ := edit
  · show (Plan.Expr.call "remove_path" [row, .collection .list keys]).peel = _
    rw [Plan.Expr.peel]
    rfl
  · show (Plan.Expr.call "set_path" [row, .collection .list keys, value]).peel = _
    rw [Plan.Expr.peel]
    rfl

/-- The edits of a row come off in the order in which they were applied. -/
theorem peel_foldl (edits : List RowEdit) (row : Plan.Expr Reference) :
    (edits.foldl (fun row edit => edit.apply row) row).peel =
      (row.peel.1, row.peel.2 ++ edits.map RowEdit.toPathEdit) := by
  induction edits generalizing row with
  | nil => rw [List.foldl_nil, List.map_nil, List.append_nil]
  | cons edit edits ih => rw [List.foldl_cons, ih, peel_apply, List.map_cons, List.append_assoc]; rfl

/-! ## Planned parts -/

/-- `x` is what `e` is planned as in the frame `scope`, up to the numbers of its own frames and locals. -/
def PlannedIn (scope : Nat) (e : Syntax.Expr) (x : Plan.Expr Reference) : Prop :=
  ∃ frames locals, x = ((planExpr .expression e).run .start).1.embed ⟨frames, locals, scope⟩

/-- The key of a step: the name of a field, or the plan of what stands between brackets. -/
inductive StepKey (scope : Nat) : Syntax.RowStep → Plan.Expr Reference → Prop
  | field (name : Identifier) : StepKey scope (.field name) (.lit (.string name.text))
  | index {key : Syntax.Expr} {x : Plan.Expr Reference} : PlannedIn scope key x → StepKey scope (.index key) x

/-! A batch opens the frame 1, and its source opens the frame 2 inside of it. There the row is declared, and there the
operations of the batch stand. -/

/-- The edit is planned as `made`: its value, and the keys of its steps, after the name of the root unless that is the
row. -/
structure EditMade (source : Syntax.MutationSource) (edit : Syntax.Edit) (made : Plan.PathEdit Reference) : Prop where
  keys : ∃ steps, List.Forall₂ (StepKey 2) edit.path.steps steps ∧
    made.keys = if edit.path.root.name.names source.rowVar.name.text then steps
      else .lit (.string edit.path.root.name.text) :: steps
  value : Option.Rel (PlannedIn 2) edit.value made.value

/-- The reference to the row: it looks for the exact name of the row, among locals only. -/
def rowReference (source : Syntax.MutationSource) : Reference :=
  ⟨⟨source.rowVar.name.text, .sensitive⟩, .localsOnly, .expression, 2, source.rowVar.location⟩

/-- The reference by which a mutation names its collection. -/
def targetReference (target : Syntax.Var) : Reference :=
  ⟨target.name, target.qualifier, .dmlTarget, 2, target.location⟩

/-- The collection of the source is scanned, and the row is the first local of the batch. -/
inductive SourceScan (source : Syntax.MutationSource) : Plan.Relation Reference → Prop
  | scan {atDecl byDecl : Option Declaration} :
      atDecl.map (fun d => Syntax.Alias.mk d.name d.location) = source.atAlias →
      byDecl.map (fun d => Syntax.Alias.mk d.name d.location) = source.byAlias →
      SourceScan source ⟨.scan
        (.var ⟨source.target.name, source.target.qualifier, .fromSource, 1, source.target.location⟩)
        ⟨source.rowVar.name, 0, source.rowVar.location⟩ atDecl byDecl, none⟩

/-- The rows of the source: those of the scan for which the condition holds, if there is one. -/
inductive SourceRows (source : Syntax.MutationSource) : Plan.Relation Reference → Prop
  | all {scan : Plan.Relation Reference} : source.filter = none → SourceScan source scan → SourceRows source scan
  | filtered {scan : Plan.Relation Reference} {condition : Syntax.Expr} {x : Plan.Expr Reference} :
      source.filter = some condition → PlannedIn 2 condition x → SourceScan source scan →
      SourceRows source ⟨.filter x scan, none⟩

/-- What is done where a row is already there. -/
inductive OnConflictDoes : Option OnConflict → Plan.Action → Prop
  | replaceExcluded : OnConflictDoes (some .doReplaceExcluded) .replace
  | updateExcluded : OnConflictDoes (some .doUpdateExcluded) .update
  | nothing : OnConflictDoes (some .doNothing) .insert
  | none : OnConflictDoes none .insert

/-- The mutation that a run of acts makes, where `rows` are the rows of the source. An insertion of many rows goes
through these for each row of the source. -/
inductive Makes (source : Syntax.MutationSource) (rows : Plan.Relation Reference) :
    List Act → Plan.Mutation Reference → Prop
  | update {edits : List Syntax.Edit} {made : List (Plan.PathEdit Reference)} {value : Plan.Expr Reference} :
      value.peel = (.var (rowReference source), made) → List.Forall₂ (EditMade source) edits made →
      Makes source rows (edits.map .edit)
        ⟨.update, targetReference source.target, .query ⟨.project rows (.value value) .all, none⟩⟩
  | delete :
      Makes source rows [.delete] ⟨.delete, targetReference source.target,
        .query ⟨.project rows (.value (.var (rowReference source))) .all, none⟩⟩
  | insert {target : Syntax.Var} {values : Syntax.Expr} {x : Plan.Expr Reference} {decl : Declaration} {scope : Nat} :
      PlannedIn 2 values x → decl.name = values.impliedAlias 2 →
      Makes source rows [.insert target values] ⟨.insert, targetReference target,
        .query ⟨.project ⟨.join .cross rows ⟨.scan x decl none none, none⟩ none, none⟩
          (.value (.var ⟨⟨decl.name.text, .sensitive⟩, .localsOnly, .expression, scope, decl.location⟩)) .all, none⟩⟩
  | insertValue {target : Syntax.Var} {value : Syntax.Expr} {onConflict : Option OnConflict} {action : Plan.Action}
      {x : Plan.Expr Reference} : PlannedIn 2 value x → OnConflictDoes onConflict action →
      Makes source rows [.insertValue target value onConflict]
        ⟨action, targetReference target, .query ⟨.project rows (.value x) .all, none⟩⟩

/-! ## Planning in the frame of the row -/

/-- The frame of the row is the current one. -/
def AtRow (s : BuildState) : Prop := s.scopes.stack = [2, 1, 0]

section Parts

variable {s s' : BuildState}

theorem AtRow.current (hs : AtRow s) : s.scopes.current = 2 := by
  unfold Scope.Recorder.current
  rw [hs]
  rfl

theorem AtRow.stack_ne (hs : AtRow s) : s.scopes.stack ≠ [] := by
  rw [hs]
  exact List.cons_ne_nil _ _

theorem planExpr_plannedIn {e : Syntax.Expr} {x : Plan.Expr Reference} (hs : AtRow s)
    (h : (planExpr .expression e).run s = (x, s')) : AtRow s' ∧ PlannedIn 2 e x := by
  obtain ⟨hrun, hstack⟩ := planExpr_run hs.stack_ne .expression e
  obtain ⟨rfl, rfl⟩ := Prod.mk.inj (hrun.symm.trans h)
  refine ⟨hstack.trans hs, s.scopes.nextFrame, s.scopes.nextLocal, ?_⟩
  rw [← hs.current]
  rfl

theorem planOption_plannedIn {e : Option Syntax.Expr} {x : Option (Plan.Expr Reference)} (hs : AtRow s)
    (h : (planOption e).run s = (x, s')) : AtRow s' ∧ Option.Rel (PlannedIn 2) e x := by
  cases e with
  | none =>
    obtain ⟨rfl, rfl⟩ := run_pure h
    exact ⟨hs, .none⟩
  | some e =>
    obtain ⟨x, h1, rfl⟩ := run_map h
    obtain ⟨hs, hx⟩ := planExpr_plannedIn hs h1
    exact ⟨hs, .some hx⟩

theorem planRowSteps_keys : ∀ {steps : List Syntax.RowStep} {keys : List (Plan.Expr Reference)} {s s' : BuildState},
    AtRow s → (planRowSteps steps).run s = (keys, s') → AtRow s' ∧ List.Forall₂ (StepKey 2) steps keys
  | [], _, _, _, hs, h => by
    obtain ⟨rfl, rfl⟩ := run_pure h
    exact ⟨hs, .nil⟩
  | .field name :: steps, _, _, _, hs, h => by
    obtain ⟨keys, h1, rfl⟩ := run_map h
    obtain ⟨hs, hk⟩ := planRowSteps_keys hs h1
    exact ⟨hs, .cons (.field name) hk⟩
  | .index key :: steps, _, _, _, hs, h => by
    obtain ⟨x, t, h1, h⟩ := run_bind h
    obtain ⟨keys, h2, rfl⟩ := run_map h
    obtain ⟨hs, hx⟩ := planExpr_plannedIn hs h1
    obtain ⟨hs, hk⟩ := planRowSteps_keys hs h2
    exact ⟨hs, .cons (.index hx) hk⟩

theorem mutation_run {action : Plan.Action} {target : Syntax.Var} {x : Plan.Expr Reference}
    {m : Plan.Mutation Reference} (hs : AtRow s) (h : (mutation action target x).run s = (m, s')) :
    AtRow s' ∧ m = ⟨action, targetReference target, x⟩ := by
  obtain ⟨r, h1, rfl⟩ := run_map h
  obtain ⟨rfl, rfl⟩ := reference_run h1
  rw [hs.current]
  exact ⟨hs, rfl⟩

end Parts

/-! ## The rows of a batch -/

/-- What the operations of a batch take from its source. -/
structure RowsOf (source : Syntax.MutationSource) (rows : MutationRows) : Prop where
  target : rows.target = source.target
  rowDecl : rows.rowDecl = ⟨source.rowVar.name, 0, source.rowVar.location⟩
  scope : rows.scope = 2

theorem RowsOf.row {source : Syntax.MutationSource} {rows : MutationRows} (hr : RowsOf source rows) :
    rows.row = .var (rowReference source) := by
  unfold MutationRows.row
  rw [hr.rowDecl, hr.scope]
  rfl

theorem RowsOf.named {source : Syntax.MutationSource} {rows : MutationRows} (hr : RowsOf source rows) :
    RowsNamed (some source) (some rows) := by
  unfold RowsNamed
  rw [Option.map_some, hr.rowDecl]
  rfl

theorem declareOption_run {a : Option Syntax.Alias} {d : Option Declaration} {s s' : BuildState}
    (h : (declareOption a).run s = (d, s')) :
    s'.scopes.stack = s.scopes.stack ∧ d.map (fun d => Syntax.Alias.mk d.name d.location) = a := by
  cases a with
  | none =>
    obtain ⟨rfl, rfl⟩ := run_pure h
    exact ⟨rfl, rfl⟩
  | some a =>
    obtain ⟨d, h1, rfl⟩ := run_map h
    obtain ⟨rfl, hs⟩ := declare_run h1
    rw [hs]
    exact ⟨rfl, rfl⟩

theorem planRows_sourceRows {source : Syntax.MutationSource} {rows : MutationRows} {s s' : BuildState}
    (h : (planRows source).run s = (rows, s')) (hs : s.scopes.stack = [1, 0]) (hl : s.scopes.nextLocal = 0)
    (hf : s.scopes.nextFrame = 2) : AtRow s' ∧ RowsOf source rows ∧ SourceRows source rows.rows := by
  obtain ⟨target, _, h0, h⟩ := run_bind h
  obtain ⟨scope, t, h1, h⟩ := run_bind h
  obtain ⟨rowDecl, u, h2, h⟩ := run_bind h
  obtain ⟨atDecl, v, h3, h⟩ := run_bind h
  obtain ⟨byDecl, w, h4, h⟩ := run_bind h
  obtain ⟨condition, h5, rfl⟩ := run_map h
  obtain ⟨rfl, rfl⟩ := reference_run h0
  obtain ⟨rfl, rfl⟩ := Prod.mk.inj h1
  have hrow : rowDecl = ⟨source.rowVar.name, 0, source.rowVar.location⟩ ∧ u.scopes.stack = [2, 1, 0] := by
    rw [← hf, ← hs, ← hl]
    unfold Syntax.MutationSource.rowVar
    cases ha : source.asAlias with
    | none =>
      rw [ha] at h2
      obtain ⟨rfl, hu⟩ := declare_run h2
      rw [hu]
      exact ⟨rfl, rfl⟩
    | some a =>
      rw [ha] at h2
      obtain ⟨rfl, hu⟩ := declare_run h2
      rw [hu]
      exact ⟨rfl, rfl⟩
  obtain ⟨rfl, hu⟩ := hrow
  obtain ⟨hv, hat⟩ := declareOption_run h3
  obtain ⟨hw, hby⟩ := declareOption_run h4
  -- the condition is planned in the frame of the row, after all of its locals
  obtain ⟨hs', hc⟩ := planOption_plannedIn (hw.trans (hv.trans hu)) h5
  have hcurrent : s.scopes.current = 1 := by
    unfold Scope.Recorder.current
    rw [hs]
    rfl
  rw [hcurrent]
  have hscan := SourceScan.scan hat hby
  refine ⟨hs', ⟨rfl, rfl, hf⟩, ?_⟩
  cases hfilter : source.filter with
  | none =>
    rw [hfilter] at hc
    cases hc
    exact .all hfilter hscan
  | some e =>
    rw [hfilter] at hc
    cases hc with
    | some hx => exact .filtered hfilter hx hscan

/-! ## Mutations of a batch -/

section Batch

variable {source : Syntax.MutationSource} {rows : MutationRows} {s s' : BuildState}

theorem planEdit_made {path : Syntax.RowPath} {value : Option Syntax.Expr} {edit : RowEdit}
    (hr : RowsOf source rows) (hs : AtRow s) (h : (planEdit (some rows) path value).run s = (edit, s')) :
    AtRow s' ∧ EditMade source ⟨path, value⟩ edit.toPathEdit := by
  obtain ⟨steps, t, h1, h⟩ := run_bind h
  obtain ⟨value, h2, rfl⟩ := run_map h
  obtain ⟨hs, hk⟩ := planRowSteps_keys hs h1
  obtain ⟨hs, hv⟩ := planOption_plannedIn hs h2
  refine ⟨hs, ⟨steps, hk, ?_⟩, hv⟩
  show (if rows.isRow path.root then [] else [_]) ++ steps = _
  unfold MutationRows.isRow
  rw [hr.rowDecl]
  split <;> rfl

theorem planAssignments_made (hr : RowsOf source rows) :
    ∀ {assignments : List Syntax.Assignment} {edits : List RowEdit} {s s' : BuildState}, AtRow s →
      (planAssignments (some rows) assignments).run s = (edits, s') → AtRow s' ∧ List.Forall₂ (EditMade source)
        (assignments.map fun a => ⟨a.target, some a.value⟩) (edits.map RowEdit.toPathEdit)
  | [], _, _, _, hs, h => by
    obtain ⟨rfl, rfl⟩ := run_pure h
    exact ⟨hs, .nil⟩
  | ⟨target, value⟩ :: rest, _, _, _, hs, h => by
    obtain ⟨edit, t, h1, h⟩ := run_bind h
    obtain ⟨edits, h2, rfl⟩ := run_map h
    obtain ⟨hs, he⟩ := planEdit_made hr hs h1
    obtain ⟨hs, hes⟩ := planAssignments_made hr hs h2
    exact ⟨hs, .cons he hes⟩

/-- The inserted rows have a frame of their own, which is closed again. -/
theorem planInserted_makes {values : Syntax.Expr} {x : Plan.Expr Reference} (hs : AtRow s)
    (h : (planInserted (some rows) values).run s = (x, s')) (target : Syntax.Var) :
    AtRow s' ∧ Makes source rows.rows [.insert target values] ⟨.insert, targetReference target, x⟩ := by
  obtain ⟨value, t, h1, h⟩ := run_bind h
  obtain ⟨hs, hv⟩ := planExpr_plannedIn hs h1
  rw [inFrame_run_eq] at h
  obtain ⟨rfl, rfl⟩ := Prod.mk.inj h
  have hd := declare_run_eq (values.impliedAlias 2) (values.firstVar?.getD rows.rowDecl.location)
    ⟨t.scopes.openFrame .fromItem, t.problems⟩
  constructor
  · refine (Scope.Recorder.closeTo_stack hs.stack_ne ?_).trans hs
    show t.scopes.stack <:+ ((declare _ _).run _).2.scopes.stack
    rw [hd]
    exact List.suffix_cons t.scopes.nextFrame t.scopes.stack
  · exact .insert hv (congrArg (·.1.name) hd)

theorem onConflictDoes_conflictAction (onConflict : Option OnConflict) :
    OnConflictDoes onConflict (conflictAction onConflict) := by
  rcases onConflict with _ | _ | _ | _ <;> constructor

/-- The mutation that a change makes is that of its acts. -/
def ChangeMakes (source : Syntax.MutationSource) (rows : Plan.Relation Reference) (c : Syntax.Change) :
    Plan.Mutation Reference → Prop := Makes source rows c.acts

/-- Pending edits are flushed as one update. -/
theorem flush_makes {pending : List Syntax.Edit} {edits : List RowEdit} {ms : List (Plan.Mutation Reference)}
    (hr : RowsOf source rows) (hedits : List.Forall₂ (EditMade source) pending (edits.map RowEdit.toPathEdit))
    (hs : AtRow s) (h : (flush (some rows) edits).run s = (ms, s')) :
    AtRow s' ∧ List.Forall₂ (ChangeMakes source rows.rows) (Syntax.updates (some source) pending) ms := by
  cases edits with
  | nil =>
    cases hedits
    obtain ⟨rfl, rfl⟩ := run_pure h
    exact ⟨hs, .nil⟩
  | cons edit edits =>
    obtain ⟨m, h1, rfl⟩ := run_map h
    obtain ⟨hs, rfl⟩ := mutation_run hs h1
    have hpending : pending ≠ [] := by
      rintro rfl
      cases hedits
    -- the edits were applied from the first to the last, so the first one is innermost
    have hpeel := peel_foldl (edit :: edits) rows.row
    rw [hr.row, Plan.Expr.peel_var, List.nil_append, ← hr.row] at hpeel
    rw [Syntax.updates, if_neg (by simpa using hpending), hr.target]
    exact ⟨hs, .cons (.update (hr.row ▸ hpeel) hedits) .nil⟩

theorem editsMade_nil : List.Forall₂ (EditMade source) [] (([] : List RowEdit).map RowEdit.toPathEdit) := .nil

theorem editsMade_append {pending more : List Syntax.Edit} {edits edits' : List RowEdit}
    (h : List.Forall₂ (EditMade source) pending (edits.map RowEdit.toPathEdit))
    (h' : List.Forall₂ (EditMade source) more (edits'.map RowEdit.toPathEdit)) :
    List.Forall₂ (EditMade source) (pending ++ more) ((edits ++ edits').map RowEdit.toPathEdit) := by
  rw [List.map_append]
  exact List.rel_append h h'

/-- Operations make one mutation for each change that they are read as, after the edits that are pending. -/
theorem planOps_makes (hr : RowsOf source rows) :
    ∀ {ops : List Syntax.MutationOp} {pending : List Syntax.Edit} {edits : List RowEdit}
      {ms : List (Plan.Mutation Reference)} {s s' : BuildState},
      List.Forall₂ (EditMade source) pending (edits.map RowEdit.toPathEdit) → AtRow s →
      (planOps (some rows) edits ops).run s = (ms, s') →
      List.Forall₂ (ChangeMakes source rows.rows) (Syntax.changes (some source) pending ops) ms
  -- by induction on the operations; the edits that are pending are those of the run that is not yet over
  | [], _, _, _, _, _, he, hs, h => (flush_makes hr he hs h).2
  | .set assignments :: ops, _, _, _, _, _, he, hs, h => by
    obtain ⟨more, t, h1, h⟩ := run_bind h
    obtain ⟨hs, hmore⟩ := planAssignments_made hr hs h1
    have hrest := planOps_makes hr (editsMade_append he hmore) hs h
    exact hrest
  | .remove path :: ops, _, _, _, _, _, he, hs, h => by
    rw [planOps_remove hr.named] at h
    unfold Syntax.changes
    split at h
    · obtain ⟨updates, t, h1, h⟩ := run_bind h
      obtain ⟨m, u, h2, h⟩ := run_bind h
      obtain ⟨rest, h3, rfl⟩ := run_map h
      obtain ⟨hs, hu⟩ := flush_makes hr he hs h1
      obtain ⟨hs, rfl⟩ := mutation_run hs h2
      rw [if_pos ‹_›, hr.target, hr.row]
      exact List.rel_append hu (.cons .delete (planOps_makes hr editsMade_nil hs h3))
    · obtain ⟨edit, t, h1, h⟩ := run_bind h
      obtain ⟨hs, hmade⟩ := planEdit_made hr hs h1
      rw [if_neg ‹_›]
      have hone : List.Forall₂ (EditMade source) [⟨path, none⟩] ([edit].map RowEdit.toPathEdit) := .cons hmade .nil
      exact planOps_makes hr (editsMade_append he hone) hs h
  | .insert target values :: ops, _, _, _, _, _, he, hs, h => by
    obtain ⟨updates, t, h1, h⟩ := run_bind h
    obtain ⟨x, u, h2, h⟩ := run_bind h
    obtain ⟨m, v, h3, h⟩ := run_bind h
    obtain ⟨rest, h4, rfl⟩ := run_map h
    obtain ⟨hs, hu⟩ := flush_makes hr he hs h1
    obtain ⟨hs, hm⟩ := planInserted_makes hs h2 target
    obtain ⟨hs, rfl⟩ := mutation_run hs h3
    exact List.rel_append hu (.cons hm (planOps_makes hr editsMade_nil hs h4))
  | .insertValue target value onConflict :: ops, _, _, _, _, _, he, hs, h => by
    obtain ⟨updates, t, h1, h⟩ := run_bind h
    obtain ⟨x, u, h2, h⟩ := run_bind h
    obtain ⟨m, v, h3, h⟩ := run_bind h
    obtain ⟨rest, h4, rfl⟩ := run_map h
    obtain ⟨hs, hu⟩ := flush_makes hr he hs h1
    obtain ⟨hs, hx⟩ := planExpr_plannedIn hs h2
    obtain ⟨hs, rfl⟩ := mutation_run hs h3
    have hm : Makes source rows.rows [.insertValue target value onConflict] _ :=
      .insertValue hx (onConflictDoes_conflictAction onConflict)
    exact List.rel_append hu (.cons hm (planOps_makes hr editsMade_nil hs h4))

end Batch

end Logical

/-! ## Batches -/

/-- Under a source, the plan of a batch has one mutation for each run of its acts, in order: one update for the longest
stretches of edits, and one mutation for everything else. -/
theorem LogicalPlan.build_runs (ops : List Syntax.MutationOp) (source : Syntax.MutationSource) (location : Location) :
    ∃ rows mutations, Logical.SourceRows source rows ∧
      (build (.dml ⟨ops, some source, location⟩)).1.statement = .dml mutations ∧
      List.Forall₂ (Logical.Makes source rows)
        (Syntax.runs (ops.flatMap (Syntax.MutationOp.acts source.rowVar.name))) mutations := by
  rcases h : (Logical.planMutation ⟨ops, some source, location⟩).run .start with ⟨mutations, s'⟩
  have hbuild : (build (.dml ⟨ops, some source, location⟩)).1.statement = .dml mutations := by
    show Plan.Statement.dml ((Logical.planMutation ⟨ops, some source, location⟩).run .start).1 = _
    rw [h]
  obtain ⟨s, u, ho, h, -⟩ := Logical.inFrame_run Scope.Recorder.consistent_start h
  obtain ⟨_, t, h1, h⟩ := Logical.run_bind h
  obtain ⟨rows, h2, rfl⟩ := Logical.run_map h1
  have hlocals : s.scopes.nextLocal = 0 := congrArg List.length ho.locals
  have hframes : s.scopes.nextFrame = 2 := congrArg List.length ho.frames
  obtain ⟨ht, hr, hrows⟩ := Logical.planRows_sourceRows h2 ho.stack hlocals hframes
  have hmakes := Logical.planOps_makes hr Logical.editsMade_nil ht h
  refine ⟨rows.rows, mutations, hrows, hbuild, ?_⟩
  -- the changes that the operations are read as are the runs of their acts
  have hruns := Syntax.map_acts_changes source [] ops
  rw [List.map_nil, List.nil_append] at hruns
  rw [← hruns, List.forall₂_map_left_iff]
  exact hmakes

namespace Logical

/-- `FROM orders AS "o" WHERE "o".open`. -/
def openOrders : Syntax.MutationSource :=
  ⟨.bare "orders" ⟨1, 6⟩, some ⟨.quoted "o", ⟨1, 16⟩⟩, none, none, some (.fields (.quoted "o" ⟨1, 26⟩) ["open"])⟩

/-- Operations of every kind, with a SET between two edits that does nothing. -/
def shipping : List Syntax.MutationOp :=
  [.set [⟨.ofFields (.quoted "o" ⟨2, 5⟩) ["status"], .string "shipped"⟩], .set [],
    .remove (.ofFields (.quoted "o" ⟨3, 8⟩) ["note"]),
    .insertValue (.bare "log" ⟨4, 13⟩) (.quoted "o" ⟨4, 23⟩) (some .doReplaceExcluded),
    .insert (.bare "parcels" ⟨5, 13⟩) (.fields (.quoted "o" ⟨5, 21⟩) ["parcels"]),
    .set [⟨.ofVar (.quoted "total" ⟨6, 5⟩), .int 0⟩], .remove (.ofVar (.quoted "o" ⟨7, 8⟩))]

end Logical

/-- The edits on both sides of the idle SET are one update, and those after the insertions are another. -/
theorem LogicalPlan.build_runs_shipping :
    ∃ rows mutations, Logical.SourceRows Logical.openOrders rows ∧
      (build (.dml ⟨Logical.shipping, some Logical.openOrders, ⟨1, 1⟩⟩)).1.statement = .dml mutations ∧
      List.Forall₂ (Logical.Makes Logical.openOrders rows)
        [[.edit ⟨.ofFields (.quoted "o" ⟨2, 5⟩) ["status"], some (.string "shipped")⟩,
            .edit ⟨.ofFields (.quoted "o" ⟨3, 8⟩) ["note"], none⟩],
          [.insertValue (.bare "log" ⟨4, 13⟩) (.quoted "o" ⟨4, 23⟩) (some .doReplaceExcluded)],
          [.insert (.bare "parcels" ⟨5, 13⟩) (.fields (.quoted "o" ⟨5, 21⟩) ["parcels"])],
          [.edit ⟨.ofVar (.quoted "total" ⟨6, 5⟩), some (.int 0)⟩], [.delete]] mutations ∧
      mutations.map (fun m => (m.action, m.target.name.text)) =
        [(.update, "orders"), (.replace, "log"), (.insert, "parcels"), (.update, "orders"), (.delete, "orders")] := by
  obtain ⟨rows, mutations, hrows, hbuild, hmakes⟩ := LogicalPlan.build_runs Logical.shipping Logical.openOrders ⟨1, 1⟩
  refine ⟨rows, mutations, hrows, hbuild, hmakes, ?_⟩
  cases hbuild
  rfl

end NestedQuery
