/-
A recording inside of another. What was recorded on its own, from the root frame on, may be put into the current frame
of a recording that has frames and locals already: the root frame becomes that frame, and all other frames and the
locals are numbered on from those that are there. Recording on from there does the same in both.
-/
import NestedQuery.Proofs.Scope.Consistency
import Mathlib.Data.List.Basic

namespace NestedQuery

/-- Where a recording is put: into the frame `scope`, after so many frames and locals. -/
structure Scope.Embedding where
  frames : Nat
  locals : Nat
  scope : Nat

/-- The frame that a frame becomes. -/
def Scope.Embedding.frame (e : Scope.Embedding) (k : Nat) : Nat := if k = 0 then e.scope else e.frames + k - 1

open Scope (Embedding)

def Local.embed (e : Embedding) (l : Local) : Local := { l with index := e.locals + l.index }

def Declaration.embed (e : Embedding) (d : Declaration) : Declaration := { d with index := e.locals + d.index }

def Reference.embed (e : Embedding) (r : Reference) : Reference := { r with scope := e.frame r.scope }

def Scope.Frame.embed (e : Embedding) (f : Frame) : Frame :=
  ⟨e.frame f.id, f.parent.map e.frame, f.kind, f.locals.map (e.locals + ·)⟩

namespace Scope

attribute [ext] Recorder

theorem Embedding.frame_of_pos (e : Embedding) {k : Nat} (h : 0 < k) : e.frame k = e.frames + k - 1 :=
  if_neg (Nat.ne_of_gt h)

namespace Recorder

def embedding (r : Recorder) : Embedding := ⟨r.nextFrame, r.nextLocal, r.current⟩

/-- The recording `r` once `q`, which was recorded on its own, is put into its current frame. -/
def embed (r q : Recorder) : Recorder where
  tree := ⟨r.tree.frames ++ q.tree.frames.tail.map (Frame.embed r.embedding)⟩
  stack := q.stack.dropLast.map r.embedding.frame ++ r.stack
  locals := r.locals ++ q.locals.map (Local.embed r.embedding)

/-- The open frames are `inner` and the root frame. -/
structure Rooted (q : Recorder) (inner : List Nat) : Prop extends Consistent q where
  stack : q.stack = inner ++ [0]

theorem rooted_start : Rooted .start [] := ⟨consistent_start, rfl⟩

theorem embed_start (r : Recorder) : r.embed .start = r := by
  obtain ⟨⟨frames⟩, stack, locals⟩ := r
  simp [Recorder.embed, Recorder.start, Tree.addFrame]

section

variable {r q : Recorder} {inner : List Nat}

theorem embed_stack (h : q.Rooted inner) : (r.embed q).stack = inner.map r.embedding.frame ++ r.stack := by
  simp [Recorder.embed, h.stack]

theorem embed_current (h : q.Rooted inner) : (r.embed q).current = r.embedding.frame q.current := by
  unfold Recorder.current
  rw [embed_stack h, h.stack]
  cases inner with
  | nil => rfl
  | cons k inner => rfl

theorem embed_nextFrame (h : q.Rooted inner) : (r.embed q).nextFrame = r.embedding.frame q.nextFrame := by
  have hf := h.nextFrame_pos
  rw [Embedding.frame_of_pos _ hf]
  unfold Recorder.nextFrame at hf ⊢
  show (r.tree.frames ++ q.tree.frames.tail.map _).length = r.tree.frames.length + q.tree.frames.length - 1
  rw [List.length_append, List.length_map, List.length_tail]
  omega

theorem embed_nextLocal (r q : Recorder) : (r.embed q).nextLocal = r.embedding.locals + q.nextLocal := by
  simp [Recorder.nextLocal, Recorder.embed, Recorder.embedding]

/-! ### Frames -/

theorem Rooted.openFrame (h : q.Rooted inner) (kind : FrameKind) :
    (q.openFrame kind).Rooted (q.nextFrame :: inner) :=
  ⟨h.toConsistent.openFrame kind, congrArg (q.nextFrame :: ·) h.stack⟩

theorem embed_openFrame (h : q.Rooted inner) (kind : FrameKind) :
    r.embed (q.openFrame kind) = (r.embed q).openFrame kind := by
  have hne : q.tree.frames ≠ [] := List.ne_nil_of_length_pos h.nextFrame_pos
  have hn : Frame.embed r.embedding ⟨q.nextFrame, some q.current, kind, []⟩ =
      ⟨(r.embed q).nextFrame, some (r.embed q).current, kind, []⟩ := by
    rw [embed_nextFrame h, embed_current h]; rfl
  refine Recorder.ext (congrArg Tree.mk ?_) ?_ rfl
  · show r.tree.frames ++ ((q.tree.frames ++ [_]).tail.map _) = (r.tree.frames ++ q.tree.frames.tail.map _) ++ [_]
    rw [List.tail_append_of_ne_nil hne, List.map_append, ← List.append_assoc]
    exact congrArg (fun f => _ ++ [f]) hn
  · show _ = (r.embed q).nextFrame :: (r.embed q).stack
    rw [embed_stack (h.openFrame kind), embed_stack h, embed_nextFrame h]
    rfl

/-- Closing the frames that were opened since leads back to the frames that were open. -/
theorem embed_closeTo (hr : r.stack ≠ []) {q' : Recorder} {outer : List Nat} (h : q.Rooted inner)
    (h' : q'.Rooted (outer ++ inner)) :
    r.embed (q'.closeTo q.depth) = (r.embed q').closeTo (r.embed q).depth ∧ (q'.closeTo q.depth).Rooted inner := by
  have hd : q.depth = inner.length + 1 := by simp [depth, h.stack]
  have hs : (q'.closeTo q.depth).stack = inner ++ [0] := by
    show q'.stack.drop _ = _
    rw [h'.stack, hd, List.append_assoc]
    refine List.drop_left' ?_
    simp only [List.length_append, List.length_singleton]
    omega
  have hc : (q'.closeTo q.depth).Rooted inner := ⟨h'.toConsistent.closeTo _, hs⟩
  refine ⟨Recorder.ext rfl ?_ rfl, hc⟩
  -- below `inner` stand the frames of `r`, of which at least one is open, so no bound on closing takes effect
  have hpos : 0 < r.stack.length := List.length_pos_of_ne_nil hr
  show _ = (r.embed q').stack.drop _
  rw [embed_stack hc, embed_stack h', List.map_append, List.append_assoc]
  symm
  refine List.drop_left' ?_
  simp only [depth, embed_stack h, List.length_append, List.length_map]
  omega

/-! ### Declarations -/

/-- The frames but the root frame come after those that were there. -/
theorem frames_embed (r q : Recorder) (k : Nat) :
    (r.embed q).tree.frames[r.tree.frames.length + k]? = (q.tree.frames[k + 1]?).map (Frame.embed r.embedding) := by
  show (r.tree.frames ++ q.tree.frames.tail.map _)[r.tree.frames.length + k]? = _
  rw [List.getElem?_append_right (Nat.le_add_right _ _), Nat.add_sub_cancel_left, List.getElem?_map, List.getElem?_tail]

theorem locals_embed (r q : Recorder) (i : Nat) :
    (r.embed q).locals[r.locals.length + i]? = (q.locals[i]?).map (Local.embed r.embedding) := by
  show (r.locals ++ q.locals.map _)[r.locals.length + i]? = _
  rw [List.getElem?_append_right (Nat.le_add_right _ _), Nat.add_sub_cancel_left, List.getElem?_map]

theorem current_embed_of_inner (r : Recorder) (h : q.Rooted inner) (hi : inner ≠ []) :
    ∃ k, q.current = k + 1 ∧ (r.embed q).current = r.tree.frames.length + k := by
  obtain ⟨k, inner, rfl⟩ := List.exists_cons_of_ne_nil hi
  have hpos : 0 < k := by
    obtain ⟨p, rest, hrest⟩ := List.exists_cons_of_ne_nil (List.concat_ne_nil 0 inner)
    exact h.current_pos (h.stack.trans (congrArg (k :: ·) hrest))
  have hq : q.current = k := by unfold current; rw [h.stack]; rfl
  refine ⟨k - 1, by omega, ?_⟩
  rw [embed_current h, hq, Embedding.frame_of_pos _ hpos]
  show r.tree.frames.length + k - 1 = _
  omega

theorem currentLocals_embed (h : q.Rooted inner) (hi : inner ≠ []) :
    (r.embed q).currentLocals = q.currentLocals.map (Local.embed r.embedding) := by
  obtain ⟨k, hq, hc⟩ := current_embed_of_inner r h hi
  unfold currentLocals Tree.frame?
  rw [hc, hq, frames_embed]
  cases q.tree.frames[k + 1]? with
  | none => rfl
  | some f =>
    show (f.locals.map _).filterMap _ = (f.locals.filterMap _).map _
    rw [List.filterMap_map, List.map_filterMap]
    exact congrArg (List.filterMap · f.locals) (funext (locals_embed r q))

theorem Rooted.declare (h : q.Rooted inner) (name : Identifier) : (q.declare name).Rooted inner :=
  ⟨h.toConsistent.declare name, h.stack⟩

/-- A local goes to the same frame in both, since it does not go to the root frame. -/
theorem embed_declare (h : q.Rooted inner) (hi : inner ≠ []) (name : Identifier) :
    r.embed (q.declare name) = (r.embed q).declare name := by
  obtain ⟨k, hq, hc⟩ := current_embed_of_inner r h hi
  refine Recorder.ext (congrArg Tree.mk (List.ext_getElem? fun j => ?_)) rfl ?_
  · show _ = ((r.embed q).tree.frames.modify (r.embed q).current _)[j]?
    rw [List.getElem?_modify, hc]
    -- the frames of `r` come before the one that takes the local, so only those of `q` may change
    rcases Nat.lt_or_ge j r.tree.frames.length with hj | hj
    · have hne : r.tree.frames.length + k ≠ j := by omega
      show (r.tree.frames ++ _)[j]? = _ <$> (r.tree.frames ++ _)[j]?
      rw [List.getElem?_append_left hj, List.getElem?_append_left hj]
      simp [hne]
    · obtain ⟨i, rfl⟩ := Nat.exists_eq_add_of_le hj
      refine (frames_embed r (q.declare name) i).trans ?_
      have hm : (q.declare name).tree.frames = q.tree.frames.modify q.current _ := rfl
      rw [frames_embed, hm, List.getElem?_modify, hq]
      cases q.tree.frames[i + 1]? with
      | none => rfl
      | some f =>
        by_cases he : k = i
        · simp [he, Frame.embed, embed_nextLocal]
        · simp [he]
  · show r.locals ++ (q.locals ++ [_]).map _ = (r.locals ++ q.locals.map _) ++ [_]
    rw [List.map_append, ← List.append_assoc, embed_nextLocal]
    rfl

end

end Recorder

end Scope

end NestedQuery
