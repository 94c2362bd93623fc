/-
How a batch under a source is cut into changes. Its operations do acts one after the other: every assignment, and every
removal of a part of a row, is an edit, and all else stands on its own. The edits that follow each other are one run,
and the changes of the batch are the runs of its acts. A SET without assignments does nothing, so it does not end a run.
-/
import NestedQuery.Proofs.Syntax.Outline
import Mathlib.Data.List.SplitBy

namespace NestedQuery.Syntax

/-! ## Acts -/

/-- What an operation does under a source. -/
inductive Act where
  | edit (edit : Edit)
  /-- The rows of the source are deleted. -/
  | delete
  | insert (target : Var) (values : Expr)
  | insertValue (target : Var) (value : Expr) (onConflict : Option OnConflict)

def Act.isEdit : Act → Bool
  | .edit _ => true
  | _ => false

/-- The acts of an operation; `row` is the name of the row. A removal without steps deletes the rows if it starts at the
row, and is an edit otherwise. -/
def MutationOp.acts (row : Identifier) : MutationOp → List Act
  | .set assignments => assignments.map fun a => .edit ⟨a.target, some a.value⟩
  | .remove path =>
    if path.steps.isEmpty && path.root.name.names row.text then [.delete] else [.edit ⟨path, none⟩]
  | .insert target values => [.insert target values]
  | .insertValue target value onConflict => [.insertValue target value onConflict]

/-- The acts that a change is made of. -/
def Change.acts : Change → List Act
  | .update edits => edits.map .edit
  | .delete _ => [.delete]
  | .insert target values => [.insert target values]
  | .insertValue target value onConflict => [.insertValue target value onConflict]

/-! ## Runs -/

/-- Acts cut into runs: the longest stretches of edits, and every other act on its own. -/
def runs (acts : List Act) : List (List Act) := acts.splitBy fun a b => a.isEdit && b.isEdit

theorem runs_edits {edits : List Edit} (h : edits ≠ []) : runs (edits.map .edit) = [edits.map .edit] := by
  refine List.splitBy_of_isChain (by simpa using h) ((List.isChain_map _).2 ?_)
  exact List.Pairwise.isChain (List.pairwise_of_forall fun _ _ => rfl)

/-- An act that is no edit ends the run before it and is a run of its own. -/
theorem runs_append_cons (before : List Act) {act : Act} (h : act.isEdit = false) (after : List Act) :
    runs (before ++ act :: after) = runs before ++ [act] :: runs after := by
  have hbefore : runs (before ++ act :: after) = runs before ++ runs (act :: after) := by
    refine List.splitBy_append_cons after fun a _ => ?_
    rw [h, Bool.and_false]
  have hafter : runs ([act] ++ after) = runs [act] ++ runs after := by
    refine List.splitBy_append fun a ha b _ => ?_
    cases ha
    show (act.isEdit && b.isEdit) = false
    rw [h, Bool.false_and]
  rw [hbefore, show act :: after = [act] ++ after from rfl, hafter]
  rfl

section Changes

variable (source : MutationSource)

/-- Pending edits make one update, which is their run. -/
theorem map_acts_updates (edits : List Edit) :
    (updates (some source) edits).map Change.acts = runs (edits.map .edit) := by
  by_cases h : edits = []
  · subst h
    rfl
  · simp [updates, h, runs_edits h, Change.acts]

theorem map_acts_append_cons {pending : List Edit} {change : Change} {act : Act} {changes : List Change}
    {after : List Act} (hc : change.acts = [act]) (ha : act.isEdit = false) (h : changes.map Change.acts = runs after) :
    (updates (some source) pending ++ change :: changes).map Change.acts =
      runs (pending.map .edit ++ act :: after) := by
  rw [List.map_append, List.map_cons, map_acts_updates, hc, h, runs_append_cons _ ha]

/-- A removal deletes the rows just when its path means the whole row. -/
theorem acts_remove (path : RowPath) : (MutationOp.remove path).acts source.rowVar.name =
    if path.isWholeRow (some source) then [.delete] else [.edit ⟨path, none⟩] := rfl

/-- The changes of a batch are the runs of its acts, of which the first goes on from the edits that are pending. -/
theorem map_acts_changes (pending : List Edit) (ops : List MutationOp) :
    (changes (some source) pending ops).map Change.acts =
      runs (pending.map .edit ++ ops.flatMap (MutationOp.acts source.rowVar.name)) := by
  induction ops generalizing pending with
  | nil =>
    rw [List.flatMap_nil, List.append_nil]
    exact map_acts_updates source pending
  | cons op ops ih =>
    cases op with
    | set assignments =>
      rw [changes, ih, List.flatMap_cons, List.map_append, List.map_map, List.append_assoc]
      rfl
    | remove path =>
      rw [changes, List.flatMap_cons, acts_remove]
      by_cases h : path.isWholeRow (some source)
      · rw [if_pos h, if_pos h]
        exact map_acts_append_cons source rfl rfl (ih [])
      · rw [if_neg h, if_neg h, ih, List.map_append, List.append_assoc]
        rfl
    | insert target values =>
      rw [changes]
      exact map_acts_append_cons source rfl rfl (ih [])
    | insertValue target value onConflict =>
      rw [changes]
      exact map_acts_append_cons source rfl rfl (ih [])

end Changes

end NestedQuery.Syntax
