/-
What can be seen from a frame, in terms of an environment. `Sees` says that the chain of frames from a frame
outward holds the groups of an environment, one frame a group, with an empty boundary frame at the start of
each block. A search from such a frame finds what the environment says. Recording only ever adds frames and
locals, and a frame takes all of its locals before another opens, so what is seen stays so.
-/
import NestedQuery.Proofs.Lexical.Environment
import NestedQuery.Proofs.Scope.Consistency
import Mathlib.Data.List.Basic
import Mathlib.Data.List.Find

namespace NestedQuery.Scope

open Lexical (Env)

theorem getElem?_of_prefix {α : Type} {l l' : List α} (h : l <+: l') {i : Nat} {a : α} (ha : l[i]? = some a) :
    l'[i]? = some a := by
  obtain ⟨t, rfl⟩ := h
  rw [List.getElem?_append_left (List.getElem?_eq_some_iff.1 ha).1, ha]

/-! ## Recorders -/

namespace Recorder

/-- A declaration is recorded: the local of its number is the one that it makes. -/
def Has (r : Recorder) (d : Declaration) : Prop := r.locals[d.index]? = some d.toLocal

theorem Consistent.has_of_mem {r : Recorder} (h : r.Consistent) {d : Declaration} (hd : d.toLocal ∈ r.locals) :
    r.Has d := by
  obtain ⟨i, hi, he⟩ := List.getElem_of_mem hd
  have : (r.locals.map (·.index))[i]? = some i := by rw [h.numbered, List.getElem?_range hi]
  rw [List.getElem?_map, List.getElem?_eq_getElem hi, he] at this
  cases this
  exact List.getElem?_eq_some_iff.2 ⟨hi, he⟩

/-- `r'` has the frames and locals of `r`, and maybe more. -/
structure Extends (r r' : Recorder) : Prop where
  frames : r.tree.frames <+: r'.tree.frames
  locals : r.locals <+: r'.locals

namespace Extends

variable {r r' : Recorder}

theorem refl (r : Recorder) : Extends r r := ⟨List.prefix_rfl, List.prefix_rfl⟩

theorem trans {a b c : Recorder} (h : Extends a b) (k : Extends b c) : Extends a c :=
  ⟨h.frames.trans k.frames, h.locals.trans k.locals⟩

theorem frame? (h : Extends r r') {i : Nat} {f : Frame} (hf : r.tree.frame? i = some f) :
    r'.tree.frame? i = some f := getElem?_of_prefix h.frames hf

theorem has (h : Extends r r') {d : Declaration} (hd : r.Has d) : r'.Has d := getElem?_of_prefix h.locals hd

end Extends

/-! ## Opening a frame and declaring in it -/

/-- `r'` comes from `r` by opening a frame of the given kind and declaring a group of locals in it. -/
structure Opened (r r' : Recorder) (kind : FrameKind) (group : List Declaration) : Prop where
  frames : r'.tree.frames = r.tree.frames ++ [⟨r.nextFrame, some r.current, kind, group.map (·.index)⟩]
  stack : r'.stack = r.nextFrame :: r.stack
  locals : r'.locals = r.locals ++ group.map Declaration.toLocal
  consistent : r'.Consistent

theorem opened_openFrame {r : Recorder} (h : r.Consistent) (kind : FrameKind) :
    Opened r (r.openFrame kind) kind [] where
  frames := rfl
  stack := rfl
  locals := (List.append_nil _).symm
  consistent := h.openFrame kind

namespace Opened

variable {r r' : Recorder} {kind : FrameKind} {group : List Declaration}

theorem current (h : Opened r r' kind group) : r'.current = r.nextFrame := by
  unfold Recorder.current; rw [h.stack]; rfl

theorem grows (h : Opened r r' kind group) : Extends r r' :=
  ⟨h.frames ▸ List.prefix_append _ _, h.locals ▸ List.prefix_append _ _⟩

theorem has (h : Opened r r' kind group) {d : Declaration} (hd : d ∈ group) : r'.Has d :=
  h.consistent.has_of_mem (h.locals ▸ List.mem_append_right _ (List.mem_map_of_mem hd))

theorem frame? (h : Opened r r' kind group) :
    r'.tree.frame? r.nextFrame = some ⟨r.nextFrame, some r.current, kind, group.map (·.index)⟩ := by
  unfold Tree.frame?
  rw [h.frames]
  exact List.getElem?_concat_length

/-- A declaration goes to the frame that was opened last and takes the next number. -/
theorem declare (h : Opened r r' kind group) (name : Identifier) (location : Location) :
    Opened r (r'.declare name) kind (group ++ [⟨name, r'.nextLocal, location⟩]) where
  frames := by
    show (r'.tree.frames.modify r'.current _) = _
    rw [h.current, h.frames, List.modify_eq_take_drop, nextFrame, List.take_left, List.drop_left]
    simp
  stack := h.stack
  locals := by
    show r'.locals ++ [_] = _
    rw [h.locals, List.map_append, List.append_assoc]
    rfl
  consistent := h.consistent.declare name

end Opened

theorem Extends.closeTo (r : Recorder) (depth : Nat) : Extends r (r.closeTo depth) :=
  ⟨List.prefix_rfl, List.prefix_rfl⟩

/-- Closing the frames that were opened since brings back the frames that were open before. -/
theorem closeTo_stack {r r' : Recorder} (hne : r.stack ≠ []) (h : r.stack <:+ r'.stack) :
    (r'.closeTo r.depth).stack = r.stack := by
  have hpos : max r.depth 1 = r.stack.length := Nat.max_eq_left (List.length_pos_of_ne_nil hne)
  show r'.stack.drop (r'.stack.length - max r.depth 1) = r.stack
  rw [hpos]
  exact (List.suffix_iff_eq_drop.1 h).symm

end Recorder

/-! ## Sight -/

/-- From the frame `i` the environment is seen: the frames of the chain hold its groups, nearest first. A
boundary frame declares nothing itself. -/
inductive Sees (r : Recorder) : Nat → Env → Prop
  | root {f : Frame} : r.tree.frame? 0 = some f → f.parent = none → f.isBoundary = true → f.locals = [] →
      Sees r 0 .top
  | block {i p : Nat} {f : Frame} {env : Env} : r.tree.frame? i = some f → f.parent = some p → p < i →
      f.isBoundary = true → f.locals = [] → Sees r p env → Sees r i env.enter
  | group {i p : Nat} {f : Frame} {env : Env} {group : List Declaration} : r.tree.frame? i = some f →
      f.parent = some p → p < i → f.isBoundary = false → f.locals = group.map (·.index) →
      (∀ d ∈ group, r.Has d) → Sees r p env → Sees r i (env.extend [group])

namespace Sees

variable {r r' : Recorder} {i : Nat} {env : Env}

theorem start : Sees .start 0 .top := .root rfl rfl rfl rfl

/-- What is seen stays so while more is recorded. -/
theorem mono (hx : r.Extends r') (h : Sees r i env) : Sees r' i env := by
  induction h with
  | root hf hp hb hl => exact .root (hx.frame? hf) hp hb hl
  | block hf hp hlt hb hl _ ih => exact .block (hx.frame? hf) hp hlt hb hl ih
  | group hf hp hlt hb hl hd _ ih => exact .group (hx.frame? hf) hp hlt hb hl (fun d hm => hx.has (hd d hm)) ih

theorem lt_length (h : Sees r i env) : i < r.tree.frames.length := by
  cases h with
  | root hf => exact (List.getElem?_eq_some_iff.1 hf).1
  | block hf => exact (List.getElem?_eq_some_iff.1 hf).1
  | group hf => exact (List.getElem?_eq_some_iff.1 hf).1

/-- A new frame that declares a group sees the group before all else. -/
theorem opened_group {kind : FrameKind} {group : List Declaration} (h : Sees r r.current env)
    (ho : r.Opened r' kind group) (hk : ∀ i p l, (Frame.mk i p kind l).isBoundary = false) :
    Sees r' r'.current (env.extend [group]) := by
  rw [ho.current]
  exact .group ho.frame? rfl h.lt_length (hk _ _ _) rfl (fun _ => ho.has) (h.mono ho.grows)

/-- A new query frame starts a block. -/
theorem opened_block (h : Sees r r.current env) (ho : r.Opened r' .query []) : Sees r' r'.current env.enter := by
  rw [ho.current]
  exact .block ho.frame? rfl h.lt_length rfl rfl (h.mono ho.grows)

/-! ### Searching -/

theorem find?_namesLocal {group : List Declaration} (h : ∀ d ∈ group, r.Has d) (name : Identifier) :
    (group.map (·.index)).find? (Tree.namesLocal r.locals name) =
      (group.find? fun d => name.names d.name.text).map (·.index) := by
  rw [List.find?_map]
  congr 1
  refine List.find?_congr fun d hd => ?_
  show Tree.namesLocal r.locals name d.index = _
  unfold Tree.namesLocal
  rw [h d hd]
  rfl

/-- The chain of a frame, as far as its boundary, is searched like the groups of the block. -/
theorem findSome?_chain (h : Sees r i env) (name : Identifier) : ∀ steps, i < steps →
    (Tree.upToBoundary (r.tree.chain steps (some i))).findSome?
      (fun f => f.locals.find? (Tree.namesLocal r.locals name)) = env.find? name := by
  -- a parent comes before its child, so the steps that are left always suffice for what is left of the chain
  induction h with
  | root hf hp hb hl =>
    rintro (_ | steps) hlt
    · cases hlt
    · simp [Tree.chain, hf, Tree.upToBoundary, hb, hl, Env.find?, Env.top]
  | block hf hp hlt hb hl _ ih =>
    rintro (_ | steps) hs
    · cases hs
    · simp [Tree.chain, hf, Tree.upToBoundary, hb, hl, Env.find?, Env.enter]
  | @group i p f env group hf hp hlt hb hl hd _ ih =>
    rintro (_ | steps) hs
    · cases hs
    · have := ih steps (by omega)
      simp only [Tree.chain, hf, Tree.upToBoundary, hb, hp, Bool.false_eq_true, if_false, List.findSome?_cons, hl,
        find?_namesLocal hd, this, Env.find?, Env.extend, List.singleton_append]

/-- The chain of a frame lists the candidates of the environment. -/
theorem flatMap_chain (h : Sees r i env) : ∀ steps, i < steps →
    (r.tree.chain steps (some i)).flatMap (·.locals.reverse) = env.candidates := by
  induction h with
  | @root f hf hp hb hl =>
    rintro (_ | steps) hlt
    · cases hlt
    · have : r.tree.chain steps none = [] := by cases steps <;> rfl
      simp [Tree.chain, hf, hp, hl, this, Env.candidates, Env.top]
  | block hf hp hlt hb hl _ ih =>
    rintro (_ | steps) hs
    · cases hs
    · have := ih steps (by omega)
      simpa [Tree.chain, hf, hp, hl, Env.candidates, Env.enter] using this
  | group hf hp hlt hb hl hd _ ih =>
    rintro (_ | steps) hs
    · cases hs
    · have := ih steps (by omega)
      simp only [Tree.chain, hf, hp, List.flatMap_cons, hl, this]
      simp [Env.candidates, Env.extend]

/-- A name is bound, from a frame, to what the environment seen from there says. -/
theorem findLocal? (h : Sees r i env) (name : Identifier) :
    r.tree.findLocal? r.locals name i = env.find? name :=
  h.findSome?_chain name _ h.lt_length

/-- The locals visible from a frame are the candidates of the environment seen from there. -/
theorem visibleLocals (h : Sees r i env) : r.tree.visibleLocals i = env.candidates :=
  h.flatMap_chain _ h.lt_length

end Sees

end NestedQuery.Scope
