/-
What holds of a recording however it came about: frames may open and close in any order, and any frame may declare a
local whenever it is the current one, also after frames inside of it have closed. The tree, the open frames and the
locals still fit together. The open frames are the way out from the current one, so every way out ends, and a frame has
just the locals that were declared while it was the current one.
-/
import NestedQuery.Proofs.Scope.Climb
import NestedQuery.Scope.Recorder
import Mathlib.Data.List.Chain

namespace NestedQuery.Scope

/-! ## Adding to a tree -/

namespace Tree

variable {t : Tree}

theorem frame?_addFrame_of_lt (kind : FrameKind) (parent : Option Nat) {k : Nat} (hk : k < t.frames.length) :
    (t.addFrame kind parent).frame? k = t.frame? k := List.getElem?_append_left hk

theorem frame?_addFrame_length (kind : FrameKind) (parent : Option Nat) :
    (t.addFrame kind parent).frame? t.frames.length = some ⟨t.frames.length, parent, kind, []⟩ :=
  List.getElem?_concat_length

/-- A frame of the tree with one more is a frame that was there or the new one. -/
theorem frame?_addFrame {kind : FrameKind} {parent : Option Nat} {k : Nat} {f : Frame}
    (h : (t.addFrame kind parent).frame? k = some f) :
    t.frame? k = some f ∨ k = t.frames.length ∧ f = ⟨t.frames.length, parent, kind, []⟩ := by
  rcases Nat.lt_trichotomy k t.frames.length with hk | rfl | hk
  · rw [frame?_addFrame_of_lt kind parent hk] at h
    exact .inl h
  · rw [frame?_addFrame_length] at h
    cases h
    exact .inr ⟨rfl, rfl⟩
  · have hlt := (List.getElem?_eq_some_iff.1 h).1
    simp only [addFrame, List.length_append, List.length_singleton] at hlt
    omega

/-- A new frame has no locals. -/
theorem flatMap_locals_addFrame (t : Tree) (kind : FrameKind) (parent : Option Nat) :
    (t.addFrame kind parent).frames.flatMap (·.locals) = t.frames.flatMap (·.locals) := by
  simp [addFrame]

theorem frame?_addLocal (t : Tree) (scope n k : Nat) : (t.addLocal scope n).frame? k =
    (t.frame? k).map fun f => if scope = k then { f with locals := f.locals ++ [n] } else f :=
  List.getElem?_modify ..

theorem frames_addLocal {scope : Nat} {f : Frame} (h : t.frame? scope = some f) (n : Nat) :
    ∃ before after, t.frames = before ++ f :: after ∧
      (t.addLocal scope n).frames = before ++ { f with locals := f.locals ++ [n] } :: after := by
  obtain ⟨hlt, rfl⟩ := List.getElem?_eq_some_iff.1 h
  refine ⟨t.frames.take scope, t.frames.drop (scope + 1), ?_, ?_⟩
  · rw [List.getElem_cons_drop, List.take_append_drop]
  · exact List.modify_eq_take_cons_drop hlt

theorem mem_frames_addLocal {scope : Nat} {f g : Frame} (h : t.frame? scope = some f) {n : Nat}
    (hg : g ∈ (t.addLocal scope n).frames) :
    g ∈ t.frames ∨ f ∈ t.frames ∧ g = { f with locals := f.locals ++ [n] } := by
  obtain ⟨before, after, hframes, hadd⟩ := frames_addLocal h n
  rw [hadd] at hg
  rw [hframes]
  simp only [List.mem_append, List.mem_cons] at hg ⊢
  tauto

/-- A local more in a frame is a local more in all. -/
theorem flatMap_locals_addLocal {scope : Nat} {f : Frame} (h : t.frame? scope = some f) (n : Nat) :
    ((t.addLocal scope n).frames.flatMap (·.locals)).Perm (t.frames.flatMap (·.locals) ++ [n]) := by
  obtain ⟨before, after, hframes, hadd⟩ := frames_addLocal h n
  rw [hframes, hadd]
  simp only [List.flatMap_append, List.flatMap_cons, List.append_assoc]
  exact ((List.perm_append_comm.append_left _).append_left _)

/-- A local more leaves the frames as they are, up to their locals. -/
theorem exists_frame?_addLocal (scope n : Nat) {k : Nat} {f : Frame} (h : t.frame? k = some f) :
    ∃ g, (t.addLocal scope n).frame? k = some g ∧ g.id = f.id ∧ g.parent = f.parent ∧ g.kind = f.kind := by
  rw [frame?_addLocal, h]
  refine ⟨_, rfl, ?_⟩
  split <;> exact ⟨rfl, rfl, rfl⟩

theorem exists_of_frame?_addLocal {scope n k : Nat} {g : Frame} (h : (t.addLocal scope n).frame? k = some g) :
    ∃ f, t.frame? k = some f ∧ g.id = f.id ∧ g.parent = f.parent ∧ g.kind = f.kind := by
  rw [frame?_addLocal] at h
  obtain ⟨f, hf, rfl⟩ := Option.map_eq_some_iff.1 h
  refine ⟨f, hf, ?_⟩
  split <;> exact ⟨rfl, rfl, rfl⟩

/-- Where all frames but the root frame have a parent before them, and the root frame has none, parents come before. -/
theorem parent_lt (hroot : ∀ f, t.frame? 0 = some f → f.parent = none)
    (hparent : ∀ k f, t.frame? k = some f → k ≠ 0 → ∃ p < k, f.parent = some p) {p k : Nat} (h : t.IsParent p k) :
    p < k := by
  obtain ⟨f, hf, hp⟩ := h
  by_cases hk : k = 0
  · subst hk
    rw [hroot f hf] at hp
    cases hp
  · obtain ⟨q, hq, hpq⟩ := hparent k f hf hk
    rw [hp] at hpq
    cases hpq
    exact hq

/-- Where open frames are each inside of the next, each of them is there. -/
theorem exists_frame?_of_chain {root : Frame} (hroot : t.frame? 0 = some root) {stack : List Nat}
    (hchain : stack.IsChain fun k p => t.IsParent p k) (hlast : stack.getLast? = some 0) :
    ∀ k ∈ stack, ∃ f, t.frame? k = some f := by
  induction stack with
  | nil => exact List.forall_mem_nil _
  | cons k rest ih =>
    cases rest with
    | nil =>
      cases hlast
      exact List.forall_mem_singleton.2 ⟨root, hroot⟩
    | cons p rest =>
      rw [List.isChain_cons_cons] at hchain
      obtain ⟨⟨f, hf, -⟩, hchain⟩ := hchain
      rw [List.getLast?_cons_cons] at hlast
      exact List.forall_mem_cons.2 ⟨⟨f, hf⟩, ih hchain hlast⟩

/-- Where open frames are each inside of the next and the last has no parent, they are the way out from the first. -/
theorem climbs_of_chain {root : Frame} (hroot : t.frame? 0 = some root) (hnone : root.parent = none)
    (hid : ∀ k f, t.frame? k = some f → f.id = k) {stack : List Nat} (hchain : stack.IsChain fun k p => t.IsParent p k)
    (hlast : stack.getLast? = some 0) : ∃ fs, t.Climbs stack.head? fs ∧ fs.map (·.id) = stack := by
  induction stack with
  | nil => cases hlast
  | cons k rest ih =>
    cases rest with
    | nil =>
      cases hlast
      refine ⟨[root], .step hroot (hnone ▸ .outside), ?_⟩
      rw [List.map_singleton, hid 0 root hroot]
    | cons p rest =>
      rw [List.isChain_cons_cons] at hchain
      obtain ⟨⟨f, hf, hp⟩, hchain⟩ := hchain
      rw [List.getLast?_cons_cons] at hlast
      obtain ⟨fs, hfs, hids⟩ := ih hchain hlast
      refine ⟨f :: fs, .step hf (hp ▸ hfs), ?_⟩
      rw [List.map_cons, hid k f hf, hids]

end Tree

namespace Recorder

/-! ## Moves -/

/-- One use of a recorder. -/
inductive Move where
  | openFrame (kind : FrameKind)
  | closeFrame
  | closeTo (depth : Nat)
  | declare (name : Identifier)

def perform (r : Recorder) : Move → Recorder
  | .openFrame kind => r.openFrame kind
  | .closeFrame => r.closeFrame
  | .closeTo depth => r.closeTo depth
  | .declare name => r.declare name

/-- A new recorder after the moves. -/
def performed (moves : List Move) : Recorder := moves.foldl perform start

/-- What a move declares, with the frame that is the current one then. -/
def Move.declares (r : Recorder) : Move → List (Nat × Local)
  | .declare name => [(r.current, ⟨name, r.nextLocal⟩)]
  | _ => []

/-- What moves declare one after the other, each with the frame that is the current one then. -/
def declarations (r : Recorder) : List Move → List (Nat × Local)
  | [] => []
  | move :: moves => move.declares r ++ declarations (r.perform move) moves

/-! ## Consistency -/

/-- The tree, the open frames and the locals fit together. -/
structure Consistent (r : Recorder) : Prop where
  /-- A local has its position as number. -/
  numbered : r.locals.map (·.index) = List.range r.locals.length
  root : ∃ f, r.tree.frame? 0 = some f ∧ f.parent = none ∧ f.kind = .statement
  /-- A frame has its position as id. -/
  id : ∀ k f, r.tree.frame? k = some f → f.id = k
  /-- A parent comes before. -/
  parent : ∀ k f, r.tree.frame? k = some f → k ≠ 0 → ∃ p < k, f.parent = some p
  /-- The frames together have each local once. -/
  locals : (r.tree.frames.flatMap (·.locals)).Perm (List.range r.locals.length)
  /-- A frame has its locals in the order of their numbers. -/
  ascending : ∀ f ∈ r.tree.frames, f.locals.Pairwise (· < ·)
  /-- An open frame is inside of the one that was open before it. -/
  stack_chain : r.stack.IsChain fun k p => r.tree.IsParent p k
  /-- The root frame is open. -/
  stack_last : r.stack.getLast? = some 0

theorem consistent_start : start.Consistent where
  numbered := rfl
  root := ⟨_, rfl, rfl, rfl⟩
  id := by
    rintro (_ | k) f hf
    · cases hf
      rfl
    · cases hf
  parent := by
    rintro (_ | k) f hf hk
    · exact absurd rfl hk
    · cases hf
  locals := .refl _
  ascending := by simp [start, Tree.addFrame]
  stack_chain := .singleton 0
  stack_last := rfl

namespace Consistent

variable {r : Recorder}

theorem stack_ne (h : r.Consistent) : r.stack ≠ [] := by
  intro hs
  have hl := h.stack_last
  rw [hs] at hl
  cases hl

theorem stack_eq_cons (h : r.Consistent) : ∃ rest, r.stack = r.current :: rest := by
  obtain ⟨k, ks, hs⟩ := List.exists_cons_of_ne_nil h.stack_ne
  refine ⟨ks, ?_⟩
  unfold current
  rw [hs]
  rfl

/-- An open frame is there. -/
theorem exists_frame?_of_mem (h : r.Consistent) {k : Nat} (hk : k ∈ r.stack) : ∃ f, r.tree.frame? k = some f := by
  obtain ⟨root, hroot, -, -⟩ := h.root
  exact Tree.exists_frame?_of_chain hroot h.stack_chain h.stack_last k hk

theorem frame?_current (h : r.Consistent) : ∃ f, r.tree.frame? r.current = some f := by
  obtain ⟨rest, hs⟩ := h.stack_eq_cons
  exact h.exists_frame?_of_mem (hs ▸ List.mem_cons_self)

theorem current_lt (h : r.Consistent) : r.current < r.nextFrame := by
  obtain ⟨f, hf⟩ := h.frame?_current
  exact (List.getElem?_eq_some_iff.1 hf).1

theorem nextFrame_pos (h : r.Consistent) : 0 < r.nextFrame := Nat.zero_lt_of_lt h.current_lt

theorem root_parent (h : r.Consistent) {f : Frame} (hf : r.tree.frame? 0 = some f) : f.parent = none := by
  obtain ⟨root, hroot, hnone, -⟩ := h.root
  rw [hroot] at hf
  cases hf
  exact hnone

theorem parent_lt (h : r.Consistent) {p k : Nat} (hp : r.tree.IsParent p k) : p < k :=
  Tree.parent_lt (fun _ => h.root_parent) h.parent hp

/-- While other frames are open, the current one is not the root frame. -/
theorem current_pos (h : r.Consistent) {k p : Nat} {rest : List Nat} (hs : r.stack = k :: p :: rest) : 0 < k := by
  have hchain := h.stack_chain
  rw [hs, List.isChain_cons_cons] at hchain
  exact Nat.zero_lt_of_lt (h.parent_lt hchain.1)

theorem lt_of_mem (h : r.Consistent) {f : Frame} (hf : f ∈ r.tree.frames) {i : Nat} (hi : i ∈ f.locals) :
    i < r.locals.length :=
  List.mem_range.1 (h.locals.subset (List.mem_flatMap.2 ⟨f, hf, hi⟩))

/-! ### One move -/

theorem openFrame (h : r.Consistent) (kind : FrameKind) : (r.openFrame kind).Consistent := by
  refine ⟨h.numbered, ?_, ?_, ?_, ?_, ?_, ?_, ?_⟩
  · obtain ⟨root, hroot, hnone, hkind⟩ := h.root
    refine ⟨root, ?_, hnone, hkind⟩
    exact (Tree.frame?_addFrame_of_lt kind _ h.nextFrame_pos).trans hroot
  · intro k f hf
    rcases Tree.frame?_addFrame hf with hf | ⟨rfl, rfl⟩
    · exact h.id k f hf
    · rfl
  · intro k f hf hk
    rcases Tree.frame?_addFrame hf with hf | ⟨rfl, rfl⟩
    · exact h.parent k f hf hk
    · exact ⟨r.current, h.current_lt, rfl⟩
  · rw [Recorder.openFrame, Tree.flatMap_locals_addFrame]
    exact h.locals
  · intro f hf
    rcases List.mem_append.1 hf with hf | hf
    · exact h.ascending f hf
    · cases List.mem_singleton.1 hf
      exact .nil
  · -- the frames that were open stay inside of each other, and the new one is inside of the current one
    have hchain : r.stack.IsChain fun k p => (r.openFrame kind).tree.IsParent p k := by
      refine h.stack_chain.imp ?_
      rintro k p ⟨f, hf, hp⟩
      have hk : k < r.tree.frames.length := (List.getElem?_eq_some_iff.1 hf).1
      exact ⟨f, (Tree.frame?_addFrame_of_lt kind _ hk).trans hf, hp⟩
    obtain ⟨rest, hs⟩ := h.stack_eq_cons
    show (r.nextFrame :: r.stack).IsChain _
    rw [hs] at hchain ⊢
    exact List.isChain_cons_cons.2 ⟨⟨_, Tree.frame?_addFrame_length kind _, rfl⟩, hchain⟩
  · show (r.nextFrame :: r.stack).getLast? = some 0
    rw [List.getLast?_cons_of_ne_nil h.stack_ne]
    exact h.stack_last

/-- The innermost frames may close as long as one is left. -/
theorem drop (h : r.Consistent) {n : Nat} (hn : n < r.stack.length) :
    { r with stack := r.stack.drop n }.Consistent where
  numbered := h.numbered
  root := h.root
  id := h.id
  parent := h.parent
  locals := h.locals
  ascending := h.ascending
  stack_chain := h.stack_chain.drop n
  stack_last := by
    show (r.stack.drop n).getLast? = some 0
    rw [List.getLast?_drop, if_neg (Nat.not_le.2 hn)]
    exact h.stack_last

theorem closeFrame (h : r.Consistent) : r.closeFrame.Consistent := by
  unfold Recorder.closeFrame
  split
  · exact h.drop ‹_›
  · exact h

theorem closeTo (h : r.Consistent) (depth : Nat) : (r.closeTo depth).Consistent := by
  have hpos : 0 < r.stack.length := List.length_pos_of_ne_nil h.stack_ne
  exact h.drop (by omega)

theorem declare (h : r.Consistent) (name : Identifier) : (r.declare name).Consistent := by
  obtain ⟨cur, hcur⟩ := h.frame?_current
  have hrange : List.range (r.declare name).locals.length = List.range r.locals.length ++ [r.nextLocal] := by
    rw [Recorder.declare, List.length_append, List.length_singleton, List.range_succ, nextLocal]
  refine ⟨?_, ?_, ?_, ?_, ?_, ?_, ?_, h.stack_last⟩
  · rw [hrange, ← h.numbered]
    exact List.map_append
  · obtain ⟨root, hroot, hnone, hkind⟩ := h.root
    obtain ⟨g, hg, -, hp, hk⟩ := Tree.exists_frame?_addLocal r.current r.nextLocal hroot
    exact ⟨g, hg, hp.trans hnone, hk.trans hkind⟩
  · intro k g hg
    obtain ⟨f, hf, hid, -, -⟩ := Tree.exists_of_frame?_addLocal hg
    exact hid.trans (h.id k f hf)
  · intro k g hg hk
    obtain ⟨f, hf, -, hp, -⟩ := Tree.exists_of_frame?_addLocal hg
    rw [hp]
    exact h.parent k f hf hk
  · rw [hrange]
    exact (Tree.flatMap_locals_addLocal hcur _).trans (h.locals.append_right _)
  · intro f hf
    rcases Tree.mem_frames_addLocal hcur hf with hf | ⟨hm, rfl⟩
    · exact h.ascending f hf
    · refine List.pairwise_append.2 ⟨h.ascending cur hm, List.pairwise_singleton _ _, ?_⟩
      intro i hi j hj
      cases List.mem_singleton.1 hj
      exact h.lt_of_mem hm hi
  · refine h.stack_chain.imp ?_
    rintro k p ⟨f, hf, hp⟩
    obtain ⟨g, hg, -, hpg, -⟩ := Tree.exists_frame?_addLocal r.current r.nextLocal hf
    exact ⟨g, hg, hpg.trans hp⟩

theorem perform (h : r.Consistent) (move : Move) : (r.perform move).Consistent := by
  cases move with
  | openFrame kind => exact h.openFrame kind
  | closeFrame => exact h.closeFrame
  | closeTo depth => exact h.closeTo depth
  | declare name => exact h.declare name

/-- Moves keep a recorder consistent. -/
theorem foldl_perform (h : r.Consistent) (moves : List Move) : (moves.foldl Recorder.perform r).Consistent := by
  induction moves generalizing r with
  | nil => exact h
  | cons move moves ih => exact ih (h.perform move)

/-! ### The way out -/

theorem acyclic (h : r.Consistent) : r.tree.Acyclic := Tree.acyclic_of_parent_lt fun _ _ => h.parent_lt

/-- The open frames are the way out from the current one. -/
theorem stack_eq (h : r.Consistent) : r.stack = (r.tree.ancestors r.current).map (·.id) := by
  obtain ⟨root, hroot, hnone, -⟩ := h.root
  obtain ⟨fs, hfs, hids⟩ := Tree.climbs_of_chain hroot hnone h.id h.stack_chain h.stack_last
  obtain ⟨rest, hs⟩ := h.stack_eq_cons
  rw [hs, List.head?_cons] at hfs
  rw [(Tree.climbs_ancestors h.acyclic r.current).unique hfs, hids]

end Consistent

/-! ## Locals of a frame -/

/-- The locals of a frame, in order. -/
def localsOf (r : Recorder) (k : Nat) : List Local :=
  ((r.tree.frame? k).map fun f => f.locals.filterMap (r.locals[·]?)).getD []

theorem localsOf_current (r : Recorder) : r.localsOf r.current = r.currentLocals := by
  unfold localsOf currentLocals
  cases r.tree.frame? r.current <;> rfl

theorem localsOf_openFrame (r : Recorder) (kind : FrameKind) (k : Nat) :
    (r.openFrame kind).localsOf k = r.localsOf k := by
  unfold localsOf
  by_cases hk : k < r.tree.frames.length
  · rw [Recorder.openFrame, Tree.frame?_addFrame_of_lt kind _ hk]
  · -- where there was no frame, there is none or one without locals
    have hnone : r.tree.frame? k = none := List.getElem?_eq_none (Nat.not_lt.1 hk)
    rw [hnone]
    cases hf : (r.openFrame kind).tree.frame? k with
    | none => rfl
    | some f =>
      rcases Tree.frame?_addFrame hf with hf | ⟨-, rfl⟩
      · rw [hnone] at hf
        cases hf
      · rfl

/-- A declaration adds its local to the current frame, and to no other. -/
theorem localsOf_declare {r : Recorder} (h : r.Consistent) (name : Identifier) (k : Nat) :
    (r.declare name).localsOf k = r.localsOf k ++ if r.current = k then [⟨name, r.nextLocal⟩] else [] := by
  obtain ⟨cur, hcur⟩ := h.frame?_current
  -- the locals that frames have so far are found as before
  have hold : ∀ f ∈ r.tree.frames, f.locals.filterMap ((r.declare name).locals[·]?) =
      f.locals.filterMap (r.locals[·]?) := fun f hf =>
    List.filterMap_congr fun i hi => List.getElem?_append_left (h.lt_of_mem hf hi)
  have hnew : [r.nextLocal].filterMap ((r.declare name).locals[·]?) = [⟨name, r.nextLocal⟩] := by
    simp [Recorder.declare, nextLocal]
  have hframe : (r.declare name).tree.frame? k = _ := Tree.frame?_addLocal r.tree r.current r.nextLocal k
  unfold localsOf
  rw [hframe, Option.map_map]
  by_cases hk : r.current = k
  · subst hk
    rw [hcur, if_pos rfl]
    simp only [Option.map_some, Function.comp_apply, if_true, Option.getD_some, List.filterMap_append]
    rw [hold cur (List.mem_of_getElem? hcur), hnew]
  · rw [if_neg hk, List.append_nil]
    cases hf : r.tree.frame? k with
    | none => rfl
    | some f =>
      simp only [Option.map_some, Function.comp_apply, if_neg hk, Option.getD_some]
      exact hold f (List.mem_of_getElem? hf)

theorem localsOf_perform {r : Recorder} (h : r.Consistent) (move : Move) (k : Nat) :
    (r.perform move).localsOf k = r.localsOf k ++ ((move.declares r).filter (·.1 == k)).map (·.2) := by
  cases move with
  | openFrame kind => exact (r.localsOf_openFrame kind k).trans (List.append_nil _).symm
  | closeFrame => exact (List.append_nil _).symm
  | closeTo depth => exact (List.append_nil _).symm
  | declare name =>
    refine (localsOf_declare h name k).trans (congrArg _ ?_)
    by_cases hk : r.current = k <;> simp [Move.declares, hk]

/-- A frame has, after those that it had before, the locals that are declared while it is the current one. -/
theorem localsOf_foldl_perform {r : Recorder} (h : r.Consistent) (moves : List Move) (k : Nat) :
    (moves.foldl perform r).localsOf k =
      r.localsOf k ++ ((r.declarations moves).filter (·.1 == k)).map (·.2) := by
  induction moves generalizing r with
  | nil => exact (List.append_nil _).symm
  | cons move moves ih =>
    rw [List.foldl_cons, ih (h.perform move), localsOf_perform h, declarations, List.filter_append, List.map_append,
      List.append_assoc]

theorem localsOf_start (k : Nat) : start.localsOf k = [] := by
  cases k <;> rfl

/-- Whatever moves a recorder makes, the tree, the open frames and the locals fit together. From the current frame
outward there are just the open frames; from any frame the way out ends. The locals of the current frame are those that
were declared while it was the current one, in the order of their declarations. -/
theorem performed_consistent (moves : List Move) :
    (performed moves).Consistent ∧ (performed moves).stack ≠ [] ∧
    (performed moves).stack = ((performed moves).tree.ancestors (performed moves).current).map (·.id) ∧
    (∀ scope, (performed moves).tree.Climbs (some scope) ((performed moves).tree.ancestors scope)) ∧
    (performed moves).depth = ((performed moves).tree.ancestors (performed moves).current).length ∧
    (performed moves).currentLocals =
      ((start.declarations moves).filter (·.1 == (performed moves).current)).map (·.2) := by
  have h : (performed moves).Consistent := consistent_start.foldl_perform moves
  refine ⟨h, h.stack_ne, h.stack_eq, Tree.climbs_ancestors h.acyclic, ?_, ?_⟩
  · have hlength := congrArg List.length h.stack_eq
    rwa [List.length_map] at hlength
  · rw [← localsOf_current, performed, localsOf_foldl_perform consistent_start, localsOf_start, List.nil_append]

end Recorder

end NestedQuery.Scope
