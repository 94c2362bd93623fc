/-
The variables of a statement, and those of them that its outline has. Queries and calls have all of theirs in the
outline. A batch of mutations leaves some out: without a source the edits of SET and REMOVE have no row to change, so
neither their values nor the keys of their paths are used, and a source whose batch does nothing is not used either.
-/
import NestedQuery.Proofs.Syntax.Outline
import Mathlib.Tactic.Tauto

namespace NestedQuery.Syntax

/-- The variable that stands at a mark. -/
def Mark.var? : Mark → Option Var
  | .var v _ => some v
  | .target v => some v
  | _ => none

/-- The variables that stand at marks. -/
def marked (marks : List Mark) : List Var := marks.filterMap (·.var?)

/-! ## Variables as they are written -/

/-- The variables of an expression, those in its blocks included. -/
def Expr.written (e : Expr) : List Var := marked (e.outline .expression)

/-- The variables in the condition of a source. -/
def MutationSource.written (s : MutationSource) : List Var := s.filter.toList.flatMap (·.written)

def RowStep.written : RowStep → List Var
  | .field _ => []
  | .index key => key.written

/-- The variables in the keys of a path. Its root is not one of them. -/
def RowPath.written (p : RowPath) : List Var := p.steps.flatMap (·.written)

namespace MutationOp

/-- The variables in the expressions of an operation. -/
def written : MutationOp → List Var
  | .insert _ values => values.written
  | .insertValue _ value _ => value.written
  | .set assignments => assignments.flatMap fun a => a.target.written ++ a.value.written
  | .remove path => path.written

/-- The variables that say what an operation changes. -/
def roots : MutationOp → List Var
  | .insert target _ => [target]
  | .insertValue target _ _ => [target]
  | .set assignments => assignments.map (·.target.root)
  | .remove path => [path.root]

def isInsertion : MutationOp → Bool
  | .insert .. => true
  | .insertValue .. => true
  | .set _ => false
  | .remove _ => false

/-- The operation is a SET without assignments. -/
def isIdle : MutationOp → Bool
  | .set assignments => assignments.isEmpty
  | _ => false

end MutationOp

namespace Statement

/-- The variables written in the expressions of a statement. -/
def written : Statement → List Var
  | .query expr => expr.written
  | .dml m => m.source.toList.flatMap (·.written) ++ m.operations.flatMap (·.written)
  | .exec _ args => args.flatMap (·.written)

/-- The variables in those expressions that the statement uses: all of them in a query or a call; in a batch without a
source only those of insertions; in a batch with a source all of them, if it has anything to do. -/
def used : Statement → List Var
  | .query expr => expr.written
  | .dml ⟨operations, none, _⟩ => (operations.filter (·.isInsertion)).flatMap (·.written)
  | .dml ⟨operations, some source, _⟩ =>
    if operations.all (·.isIdle) then [] else source.written ++ operations.flatMap (·.written)
  | .exec _ args => args.flatMap (·.written)

/-- The variables that name what a batch goes through and what it changes. -/
def collections : Statement → List Var
  | .dml ⟨operations, none, _⟩ => operations.flatMap (·.roots)
  | .dml ⟨operations, some source, _⟩ =>
    if operations.all (·.isIdle) then []
    else source.target :: (operations.filter (·.isInsertion)).flatMap (·.roots)
  | _ => []

end Statement

/-! ## Variables of the outline -/

@[simp]
theorem marked_nil : marked [] = [] := rfl

@[simp]
theorem marked_target (v : Var) (marks : List Mark) : marked (.target v :: marks) = v :: marked marks := rfl

@[simp]
theorem marked_rows (use : RowUse) (s : MutationSource) (marks : List Mark) :
    marked (.rows use s :: marks) = marked marks := rfl

@[simp]
theorem marked_generated (name : Identifier) (marks : List Mark) :
    marked (.generated name :: marks) = marked marks := rfl

@[simp]
theorem marked_append (marks marks' : List Mark) : marked (marks ++ marks') = marked marks ++ marked marks' :=
  List.filterMap_append

@[simp]
theorem marked_flatMap {α : Type} (f : α → List Mark) (xs : List α) :
    marked (xs.flatMap f) = xs.flatMap fun x => marked (f x) := List.filterMap_flatMap

theorem marked_outlineList (es : List Expr) : marked (outlineList es) = es.flatMap (·.written) := by
  induction es with
  | nil => rfl
  | cons e es ih =>
    rw [outlineList, marked_append, ih, List.flatMap_cons]
    rfl

theorem marked_outlineOption (e : Option Expr) : marked (outlineOption e) = e.toList.flatMap (·.written) := by
  cases e with
  | none => rfl
  | some e => exact (List.append_nil _).symm

theorem marked_outlineRowSteps : ∀ steps : List RowStep, marked (outlineRowSteps steps) = steps.flatMap (·.written)
  | [] => rfl
  | .field _ :: steps => marked_outlineRowSteps steps
  | .index key :: steps => by
    rw [outlineRowSteps, marked_append, marked_outlineRowSteps steps, List.flatMap_cons]
    rfl

/-- A path that means the whole row has no keys. -/
theorem written_of_isWholeRow {source : Option MutationSource} {path : RowPath}
    (h : path.isWholeRow source = true) : path.written = [] := by
  unfold RowPath.isWholeRow at h
  rw [Bool.and_eq_true, List.isEmpty_iff] at h
  unfold RowPath.written
  rw [h.1, List.flatMap_nil]

/-- The variables in the expressions of an edit. -/
def Edit.written (edit : Edit) : List Var := edit.path.written ++ edit.value.toList.flatMap (·.written)

@[simp]
theorem marked_edit (edit : Edit) : marked edit.outline = edit.written := by
  rw [Edit.outline, marked_append, marked_outlineRowSteps, marked_outlineOption]
  rfl

@[simp]
theorem marked_source (s : MutationSource) : marked s.outline = s.target :: s.written :=
  congrArg (s.target :: ·) (marked_outlineOption s.filter)

theorem mem_flatMap_append_ite {α β : Type} (f g : α → List β) (p : α → Bool) (xs : List α) {y : β} :
    y ∈ xs.flatMap (fun x => f x ++ if p x then g x else []) ↔ y ∈ xs.flatMap f ∨ y ∈ (xs.filter p).flatMap g := by
  simp only [List.mem_flatMap, List.mem_append, List.mem_filter]
  constructor
  · rintro ⟨x, hx, h | h⟩
    · exact .inl ⟨x, hx, h⟩
    · split at h
      · exact .inr ⟨x, ⟨hx, ‹_›⟩, h⟩
      · cases h
  · rintro (⟨x, hx, h⟩ | ⟨x, ⟨hx, hp⟩, h⟩)
    · exact ⟨x, hx, .inl h⟩
    · exact ⟨x, hx, .inr (by rwa [if_pos hp])⟩

/-! ## Batches without a source -/

/-- What an operation adds to a batch without a source. -/
def MutationOp.alone (op : MutationOp) : List Var := op.roots ++ if op.isInsertion then op.written else []

theorem marked_updates_alone (edits : List Edit) :
    (updates none edits).flatMap (fun c => marked (c.outline none)) = edits.map (·.path.root) := by
  unfold updates
  rw [List.flatMap_map, List.map_eq_flatMap]
  rfl

theorem marked_changes_alone : ∀ (pending : List Edit) (ops : List MutationOp),
    (changes none pending ops).flatMap (fun c => marked (c.outline none)) =
      pending.map (·.path.root) ++ ops.flatMap (·.alone)
  | pending, [] => by
    rw [changes, marked_updates_alone, List.flatMap_nil, List.append_nil]
  | pending, .set assignments :: ops => by
    rw [changes, marked_changes_alone, List.flatMap_cons]
    simp [MutationOp.alone, MutationOp.roots, MutationOp.isInsertion]
  | pending, .remove path :: ops => by
    rw [changes, List.flatMap_cons]
    split
    · rw [List.flatMap_append, List.flatMap_cons, marked_updates_alone, marked_changes_alone]
      rfl
    · rw [marked_changes_alone]
      simp [MutationOp.alone, MutationOp.roots, MutationOp.isInsertion]
  | pending, .insert target values :: ops => by
    rw [changes, List.flatMap_append, List.flatMap_cons, marked_updates_alone, marked_changes_alone]
    rfl
  | pending, .insertValue target value onConflict :: ops => by
    rw [changes, List.flatMap_append, List.flatMap_cons, marked_updates_alone, marked_changes_alone]
    rfl

/-! ## Batches with a source -/

/-- The variables of a change under a source, but for those of the source. -/
def Change.written : Change → List Var
  | .update edits => edits.flatMap (·.written)
  | .delete _ => []
  | .insert target values => values.written ++ [target]
  | .insertValue target value _ => value.written ++ [target]

/-- What an operation adds to a batch with a source. -/
def MutationOp.sourced (op : MutationOp) : List Var := op.written ++ if op.isInsertion then op.roots else []

theorem MutationOp.sourced_of_isIdle {op : MutationOp} (h : op.isIdle = true) : op.sourced = [] := by
  cases op with
  | set assignments =>
    obtain rfl := List.isEmpty_iff.1 h
    rfl
  | insert | insertValue | remove => cases h

section Sourced

variable (source : MutationSource)

/-- A change under a source has the variables of the source and its own. -/
theorem mem_marked_sourced (c : Change) {v : Var} : v ∈ marked (c.outline (some source)) ↔
    v ∈ source.target :: source.written ∨ v ∈ c.written := by
  cases c with
  | update edits => simp [Change.outline, Change.written, or_assoc]
  | delete root => simp [Change.outline, Change.written]
  | insert target values =>
    simp only [Change.outline, Change.written, Expr.written, marked_target, marked_rows, marked_append,
      marked_source, marked_generated, marked_nil, List.mem_append, List.mem_cons, List.not_mem_nil]
    tauto
  | insertValue target value onConflict =>
    simp only [Change.outline, Change.written, Expr.written, marked_target, marked_rows, marked_append,
      marked_source, List.mem_append, List.mem_cons, List.not_mem_nil]
    tauto

theorem written_updates_sourced (edits : List Edit) :
    (updates (some source) edits).flatMap (·.written) = edits.flatMap (·.written) := by
  cases edits with
  | nil => rfl
  | cons edit edits => exact List.append_nil _

theorem written_changes_sourced : ∀ (pending : List Edit) (ops : List MutationOp),
    (changes (some source) pending ops).flatMap (·.written) =
      pending.flatMap (·.written) ++ ops.flatMap (·.sourced)
  | pending, [] => by
    rw [changes, written_updates_sourced, List.flatMap_nil, List.append_nil]
  | pending, .set assignments :: ops => by
    rw [changes, written_changes_sourced, List.flatMap_cons]
    simp [MutationOp.sourced, MutationOp.written, MutationOp.isInsertion, List.flatMap_map, Edit.written]
  | pending, .remove path :: ops => by
    rw [changes, List.flatMap_cons]
    split
    · rw [List.flatMap_append, List.flatMap_cons, written_updates_sourced, written_changes_sourced]
      simp [MutationOp.sourced, MutationOp.written, MutationOp.isInsertion, Change.written,
        written_of_isWholeRow ‹_›]
    · rw [written_changes_sourced]
      simp [MutationOp.sourced, MutationOp.written, MutationOp.isInsertion, Edit.written]
  | pending, .insert target values :: ops => by
    rw [changes, List.flatMap_append, List.flatMap_cons, written_updates_sourced, written_changes_sourced]
    rfl
  | pending, .insertValue target value onConflict :: ops => by
    rw [changes, List.flatMap_append, List.flatMap_cons, written_updates_sourced, written_changes_sourced]
    rfl

/-- A batch under a source changes nothing exactly if all its operations are idle. -/
theorem changes_sourced_eq_nil : ∀ (pending : List Edit) (ops : List MutationOp),
    changes (some source) pending ops = [] ↔ pending = [] ∧ ops.all (·.isIdle) = true
  | pending, [] => by
    cases pending <;> simp [changes, updates]
  | pending, .set assignments :: ops => by
    rw [changes, changes_sourced_eq_nil]
    simp [MutationOp.isIdle, and_assoc]
  | pending, .remove path :: ops => by
    rw [changes]
    split
    · simp [MutationOp.isIdle]
    · rw [changes_sourced_eq_nil]
      simp [MutationOp.isIdle]
  | pending, .insert target values :: ops => by
    simp [changes, MutationOp.isIdle]
  | pending, .insertValue target value onConflict :: ops => by
    simp [changes, MutationOp.isIdle]

/-- The variables of a batch under a source: those of its operations, and those of the source unless the batch has
nothing to do. -/
theorem mem_changes_sourced (ops : List MutationOp) {v : Var} :
    v ∈ (changes (some source) [] ops).flatMap (fun c => marked (c.outline (some source))) ↔
      v ∈ ops.flatMap (·.sourced) ∨ ops.all (·.isIdle) = false ∧ v ∈ source.target :: source.written := by
  have hv := written_changes_sourced source [] ops
  have hn := changes_sourced_eq_nil source [] ops
  rw [List.flatMap_nil, List.nil_append] at hv
  rw [← hv, List.mem_flatMap, List.mem_flatMap]
  simp only [mem_marked_sourced]
  constructor
  · rintro ⟨c, hc, h | h⟩
    · refine .inr ⟨?_, h⟩
      rw [Bool.eq_false_iff]
      intro hi
      rw [hn.2 ⟨rfl, hi⟩] at hc
      cases hc
    · exact .inl ⟨c, hc, h⟩
  · rintro (⟨c, hc, h⟩ | ⟨hi, h⟩)
    · exact ⟨c, hc, .inr h⟩
    · have hne : changes (some source) [] ops ≠ [] := fun he => Bool.eq_false_iff.1 hi (hn.1 he).2
      obtain ⟨c, hc⟩ := List.exists_mem_of_ne_nil _ hne
      exact ⟨c, hc, .inl h⟩

end Sourced

/-! ## Statements -/

/-- The variables of the outline are those in the expressions that the statement uses, and those that name the
collections of a batch. -/
theorem Statement.mem_marked_outline (s : Statement) (v : Var) :
    v ∈ marked s.outline ↔ v ∈ s.used ∨ v ∈ s.collections := by
  cases s with
  | query expr => simp [outline, used, collections, Expr.written]
  | exec procedure args => simp [outline, used, collections, marked_outlineList]
  | dml m =>
    obtain ⟨ops, source, location⟩ := m
    rw [outline, marked_flatMap]
    cases source with
    | none =>
      rw [marked_changes_alone, List.map_nil, List.nil_append, or_comm]
      exact mem_flatMap_append_ite ..
    | some source =>
      rw [mem_changes_sourced, used, collections]
      cases hi : ops.all (·.isIdle) with
      | true =>
        have hs : ops.flatMap (·.sourced) = [] := by
          rw [List.flatMap_eq_nil_iff]
          exact fun op hop => MutationOp.sourced_of_isIdle (List.all_eq_true.1 hi op hop)
        simp [hs]
      | false =>
        have hs : v ∈ ops.flatMap (·.sourced) ↔ _ := mem_flatMap_append_ite ..
        simp only [hs, Bool.false_eq_true, if_false, true_and, List.mem_append, List.mem_cons]
        tauto

end NestedQuery.Syntax
