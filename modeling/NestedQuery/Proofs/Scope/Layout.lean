/-
How a recording lays out its frames. A frame takes the next position and its parent came before it, so the way out from
a frame goes to lower positions and does not depend on frames that come later. As locals go to the frame that opened
last, the frames in order list the locals in order: a local is in one frame, and the locals met on the way out come in
the opposite order of their numbers.
-/
import NestedQuery.Proofs.Scope.Consistency
import NestedQuery.Proofs.Scope.Sight
import Mathlib.Data.List.Flatten
import Mathlib.Data.List.Pairwise

namespace NestedQuery.Scope

/-! ## Trees -/

/-- The frame fits its position: it has the position as id, the root frame is the one frame of a statement and the one
without a parent, and a parent comes before. -/
structure Frame.FitsAt (f : Frame) (i : Nat) : Prop where
  id : f.id = i
  root : i = 0 → f.parent = none
  parent : i ≠ 0 → ∃ p < i, f.parent = some p
  kind : f.kind = .statement ↔ i = 0

/-- There is a root frame, each frame fits its position, and the frames in order list all of the locals in order. -/
structure Tree.LaidOut (t : Tree) (locals : List Local) : Prop where
  root : t.frames ≠ []
  fits : ∀ i f, t.frame? i = some f → f.FitsAt i
  locals : t.frames.flatMap (·.locals) = List.range locals.length

namespace Tree.LaidOut

variable {t u : Tree} {locals locals' : List Local}

theorem parent_lt (h : t.LaidOut locals) {p i : Nat} (hp : t.IsParent p i) : p < i :=
  Tree.parent_lt (fun f hf => (h.fits 0 f hf).root rfl) (fun i f hf => (h.fits i f hf).parent) hp

theorem acyclic (h : t.LaidOut locals) : t.Acyclic := acyclic_of_parent_lt fun _ _ => h.parent_lt

/-! ### Frames that come later -/

/-- The way out meets frames in the opposite order of their positions. -/
theorem sublist_of_climbs (h : t.LaidOut locals) {scope : Option Nat} {fs : List Frame} (hc : t.Climbs scope fs) :
    ∀ n, (∀ i ∈ scope, i < n) → fs.Sublist (t.frames.take n).reverse := by
  induction hc with
  | outside => exact fun _ _ => List.nil_sublist _
  | missing _ => exact fun _ _ => List.nil_sublist _
  | @step i f fs hf _ ih =>
    intro n hn
    have hi : i < n := hn i rfl
    have hpre : t.frames.take (i + 1) <+: t.frames.take n := List.take_prefix_take_left hi
    have hlast : t.frames.take (i + 1) = t.frames.take i ++ [f] := by
      rw [List.take_add_one, show t.frames[i]? = some f from hf]
      rfl
    rw [hlast] at hpre
    have hfs := ih i fun p hp => h.parent_lt ⟨f, hf, hp⟩
    refine .trans ?_ hpre.sublist.reverse
    rw [List.reverse_append]
    exact hfs.cons_cons f

theorem ancestors_sublist (h : t.LaidOut locals) (i : Nat) : (t.ancestors i).Sublist t.frames.reverse := by
  have hs := h.sublist_of_climbs (climbs_ancestors h.acyclic i) (max (i + 1) t.frames.length) fun j hj => by
    cases hj
    omega
  rwa [List.take_of_length_le (Nat.le_max_right ..)] at hs

/-- A local is in one frame. -/
theorem frame_unique (h : t.LaidOut locals) {f g : Frame} (hf : f ∈ t.frames) (hg : g ∈ t.frames) {i : Nat}
    (hif : i ∈ f.locals) (hig : i ∈ g.locals) : f = g := by
  have hn : (t.frames.flatMap (·.locals)).Nodup := h.locals ▸ List.nodup_range
  have hd := (List.nodup_flatMap.1 hn).2
  have : Std.Symm (Function.onFun List.Disjoint fun f : Frame => f.locals) := ⟨fun _ _ h _ hg hf => h hf hg⟩
  by_contra hne
  exact hd.forall hf hg hne hif hig

end Tree.LaidOut

/-! ## Recordings -/

namespace Recorder

/-- A recording that is laid out so far: no frame but the root frame is of a statement, and the frames in order list the
locals in order. While `fresh`, the current frame is the one that opened last. -/
structure Laid (fresh : Bool) (r : Recorder) : Prop extends Consistent r where
  kinds : ∀ k f, r.tree.frame? k = some f → (f.kind = .statement ↔ k = 0)
  ordered : r.tree.frames.flatMap (·.locals) = List.range r.locals.length
  last : fresh = true → r.nextFrame = r.current + 1

theorem laid_start : start.Laid false where
  toConsistent := consistent_start
  kinds := by
    rintro (_ | k) f hf
    · cases hf
      exact Iff.of_eq (by simp)
    · cases hf
  ordered := rfl
  last := nofun

namespace Laid

variable {fresh : Bool} {r : Recorder}

theorem tree (h : r.Laid fresh) : r.tree.LaidOut r.locals where
  root := List.ne_nil_of_length_pos h.nextFrame_pos
  fits k f hf := by
    refine ⟨h.id k f hf, ?_, h.parent k f hf, h.kinds k f hf⟩
    rintro rfl
    exact h.root_parent hf
  locals := h.ordered

theorem of_fresh (h : r.Laid fresh) : r.Laid false := ⟨h.toConsistent, h.kinds, h.ordered, nofun⟩

theorem openFrame (h : r.Laid fresh) {kind : FrameKind} (hk : kind ≠ .statement) : (r.openFrame kind).Laid true where
  toConsistent := h.toConsistent.openFrame kind
  kinds k f hf := by
    rcases Tree.frame?_addFrame hf with hf | ⟨rfl, rfl⟩
    · exact h.kinds k f hf
    · exact iff_of_false hk (Nat.ne_of_gt h.nextFrame_pos)
  ordered := (r.tree.flatMap_locals_addFrame kind _).trans h.ordered
  last _ := List.length_append

theorem closeTo (h : r.Laid fresh) (depth : Nat) : (r.closeTo depth).Laid false :=
  ⟨h.toConsistent.closeTo depth, h.kinds, h.ordered, nofun⟩

/-- A local goes to the end of the last frame. -/
theorem frames_declare (h : r.Laid true) (name : Identifier) : ∃ before f, r.tree.frames = before ++ [f] ∧
    (r.declare name).tree.frames = before ++ [{ f with locals := f.locals ++ [r.nextLocal] }] := by
  obtain ⟨before, f, hf⟩ := (List.eq_nil_or_concat' r.tree.frames).resolve_left h.tree.root
  refine ⟨before, f, hf, ?_⟩
  have hc : r.current = before.length := by
    have hl := h.last rfl
    rw [nextFrame, hf, List.length_append, List.length_singleton] at hl
    omega
  show r.tree.frames.modify r.current _ = _
  rw [hf, hc, List.modify_eq_take_drop, List.take_left, List.drop_left]
  rfl

theorem declare (h : r.Laid true) (name : Identifier) : (r.declare name).Laid true where
  toConsistent := h.toConsistent.declare name
  kinds k g hg := by
    obtain ⟨f, hf, -, -, hkind⟩ := Tree.exists_of_frame?_addLocal hg
    rw [hkind]
    exact h.kinds k f hf
  ordered := by
    obtain ⟨before, f, hf, hd⟩ := h.frames_declare name
    have hl := h.ordered
    rw [hf, List.flatMap_append, List.flatMap_singleton] at hl
    rw [hd, List.flatMap_append, List.flatMap_singleton]
    show _ ++ (f.locals ++ [r.nextLocal]) = List.range (r.locals ++ [_]).length
    rw [← List.append_assoc, hl, List.length_append, List.length_singleton, List.range_succ]
    rfl
  last hl := (List.length_modify ..).trans (h.last hl)

end Laid

end Recorder

end NestedQuery.Scope
