/-
Lookups in any tree of frames, also one that no builder makes: parents may be missing, ids and locals may be
wrong. The one thing asked is that no frame is around itself. The way out from a frame then ends, and a walk
bounded by the number of frames goes all of it. A name is bound in the nearest frame that has a local of that
name, but not beyond the first boundary.
-/
import NestedQuery.Scope.Tree
import Mathlib.Data.List.Perm.Subperm
import Mathlib.Data.List.Nodup
import Mathlib.Logic.Relation

namespace NestedQuery.Scope.Tree

open Relation (TransGen)

variable {t : Tree}

/-! ## The way out -/

/-- The frames met on the way out from a frame. After a frame comes its parent; the way ends where there is none
or where it is not in the tree. -/
inductive Climbs (t : Tree) : Option Nat → List Frame → Prop
  | outside : Climbs t none []
  | missing {i : Nat} : t.frame? i = none → Climbs t (some i) []
  | step {i : Nat} {f : Frame} {fs : List Frame} : t.frame? i = some f → Climbs t f.parent fs →
      Climbs t (some i) (f :: fs)

/-- There is one way out. -/
theorem Climbs.unique {scope : Option Nat} {fs gs : List Frame} (h : t.Climbs scope fs) (h' : t.Climbs scope gs) :
    fs = gs := by
  induction h generalizing gs with
  | outside => cases h'; rfl
  | missing hm =>
    cases h' with
    | missing => rfl
    | step hf => rw [hm] at hf; cases hf
  | step hf _ ih =>
    cases h' with
    | missing hm => rw [hm] at hf; cases hf
    | step hf' h' =>
      rw [hf] at hf'
      cases hf'
      rw [ih h']

/-- The frame `p` is the parent of the frame `i`. It need not be in the tree itself. -/
def IsParent (t : Tree) (p i : Nat) : Prop := ∃ f, t.frame? i = some f ∧ f.parent = some p

/-- No frame is around itself. -/
def Acyclic (t : Tree) : Prop := ∀ i, ¬ TransGen t.IsParent i i

/-- A tree whose frames can be ranked, each below its parent, has no frame around itself. -/
theorem acyclic_of_rank (rank : Nat → Nat) (h : ∀ p i, t.IsParent p i → rank i < rank p) : t.Acyclic := by
  have hlt : ∀ {j i}, TransGen t.IsParent j i → rank i < rank j := by
    intro j i hji
    induction hji with
    | single hp => exact h _ _ hp
    | tail _ hp ih => exact Nat.lt_trans (h _ _ hp) ih
  exact fun i hi => Nat.lt_irrefl (rank i) (hlt hi)

theorem acyclic_of_parent_lt (h : ∀ p i, t.IsParent p i → p < i) : t.Acyclic := by
  refine acyclic_of_rank (t.frames.length - ·) fun p i hp => ?_
  have hlt := h p i hp
  obtain ⟨f, hf, -⟩ := hp
  have hi : i < t.frames.length := (List.getElem?_eq_some_iff.1 hf).1
  show t.frames.length - i < t.frames.length - p
  omega

/-! ## The bounded walk -/

theorem length_le_of_nodup {seen : List Nat} {n : Nat} (hn : seen.Nodup) (hs : ∀ i ∈ seen, i < n) :
    seen.length ≤ n := by
  have hp := (List.subperm_of_subset hn fun i hi => List.mem_range.2 (hs i hi)).length_le
  rwa [List.length_range] at hp

/-- A walk that has met the frames `seen` before goes on to the end of the way, if its steps are enough for the
other frames of the tree. -/
theorem climbs_chain (h : t.Acyclic) : ∀ (steps : Nat) {seen : List Nat} {scope : Option Nat}, seen.Nodup →
    (∀ j ∈ seen, j < t.frames.length) → t.frames.length ≤ seen.length + steps →
    (∀ i, scope = some i → ∀ j ∈ seen, TransGen t.IsParent i j) → t.Climbs scope (t.chain steps scope)
  | steps, seen, none, _, _, _, _ => by cases steps <;> exact .outside
  | steps, seen, some i, hn, hs, hlen, hup => by
    cases hf : t.frame? i with
    | none =>
      have hc : t.chain steps (some i) = [] := by cases steps <;> simp [chain, hf]
      rw [hc]
      exact .missing hf
    | some f =>
      -- the frame is new: it is around all that are seen, and none is around itself
      have hnew : i ∉ seen := fun hi => h i (hup i rfl i hi)
      have hn' : (i :: seen).Nodup := List.nodup_cons.2 ⟨hnew, hn⟩
      have hs' : ∀ j ∈ i :: seen, j < t.frames.length := by
        rintro j (_ | ⟨_, hj⟩)
        · exact (List.getElem?_eq_some_iff.1 hf).1
        · exact hs j hj
      have hroom := length_le_of_nodup hn' hs'
      rw [List.length_cons] at hroom
      cases steps with
      | zero => omega
      | succ steps =>
        rw [chain, hf]
        refine .step hf (climbs_chain h steps hn' hs' (by rw [List.length_cons]; omega) ?_)
        intro p hp j hj
        have hi : t.IsParent p i := ⟨f, hf, hp⟩
        rcases List.mem_cons.1 hj with rfl | hj
        · exact .single hi
        · exact .head hi (hup i rfl j hj)

/-- The ancestors of a frame are all the frames on the way out. -/
theorem climbs_ancestors (h : t.Acyclic) (scope : Nat) : t.Climbs (some scope) (t.ancestors scope) :=
  climbs_chain h _ List.nodup_nil (fun _ hj => nomatch hj) (by simp) fun _ _ _ hj => nomatch hj

/-! ## Bound names -/

/-- Looked up from a frame, a name is bound to a local. On the way out, `inner` are the frames before the one that
counts: none of them is a boundary or has a local of that name. In the frame that counts, the local is the first
declared of that name. -/
def Binds (t : Tree) (locals : List Local) (name : Identifier) (scope index : Nat) : Prop :=
  ∃ inner f outer earlier later, t.Climbs (some scope) (inner ++ f :: outer) ∧
    (∀ g ∈ inner, g.isBoundary = false ∧ ∀ i ∈ g.locals, namesLocal locals name i = false) ∧
    f.locals = earlier ++ index :: later ∧ namesLocal locals name index = true ∧
    ∀ i ∈ earlier, namesLocal locals name i = false

/-- The frames up to the first boundary have a frame where the whole list has it, with no boundary before. -/
theorem upToBoundary_split {inner : List Frame} {f : Frame} : ∀ {fs : List Frame},
    (∃ rest, upToBoundary fs = inner ++ f :: rest) ↔
      ∃ outer, fs = inner ++ f :: outer ∧ ∀ g ∈ inner, g.isBoundary = false := by
  induction inner with
  | nil =>
    intro fs
    cases fs with
    | nil => simp [upToBoundary]
    | cons g gs => cases hb : g.isBoundary <;> simp [upToBoundary, hb]
  | cons g inner ih =>
    intro fs
    cases fs with
    | nil => simp [upToBoundary]
    | cons g' gs =>
      cases hb : g'.isBoundary with
      | true =>
        simp only [upToBoundary, hb, if_true]
        constructor
        · rintro ⟨rest, hr⟩
          simp at hr
        · rintro ⟨outer, ho, hi⟩
          obtain ⟨rfl, -⟩ := List.cons_eq_cons.1 ho
          rw [hi g' List.mem_cons_self] at hb
          cases hb
      | false =>
        simp only [upToBoundary, hb, Bool.false_eq_true, if_false, List.cons_append, List.cons.injEq,
          exists_and_left, ih, List.forall_mem_cons]
        constructor
        · rintro ⟨rfl, outer, rfl, hi⟩
          exact ⟨outer, ⟨rfl, rfl⟩, hb, hi⟩
        · rintro ⟨outer, ⟨rfl, rfl⟩, -, hi⟩
          exact ⟨rfl, outer, rfl, hi⟩

/-- A search finds exactly the local that a name is bound to. -/
theorem findLocal?_eq_some_iff (h : t.Acyclic) {locals : List Local} {name : Identifier} {scope index : Nat} :
    t.findLocal? locals name scope = some index ↔ t.Binds locals name scope index := by
  unfold findLocal? staticFrames Binds
  simp only [List.findSome?_eq_some_iff, List.find?_eq_some_iff_append, List.find?_eq_none, Bool.not_eq_true,
    Bool.not_eq_eq_eq_not, Bool.not_true]
  constructor
  · rintro ⟨inner, f, rest, hs, ⟨hn, earlier, later, hl, he⟩, hi⟩
    obtain ⟨outer, ho, hb⟩ := upToBoundary_split.1 ⟨rest, hs⟩
    refine ⟨inner, f, outer, earlier, later, ho ▸ climbs_ancestors h scope, fun g hg => ⟨hb g hg, hi g hg⟩, hl, hn, he⟩
  · rintro ⟨inner, f, outer, earlier, later, hc, hi, hl, hn, he⟩
    have ho : t.ancestors scope = inner ++ f :: outer := (climbs_ancestors h scope).unique hc
    obtain ⟨rest, hs⟩ := upToBoundary_split.2 ⟨outer, ho, fun g hg => (hi g hg).1⟩
    exact ⟨inner, f, rest, hs, ⟨hn, earlier, later, hl, he⟩, fun g hg => (hi g hg).2⟩

/-- A search finds a local that the name names. -/
theorem namesLocal_of_findLocal? {locals : List Local} {name : Identifier} {scope index : Nat}
    (h : t.findLocal? locals name scope = some index) : namesLocal locals name index = true := by
  obtain ⟨f, -, hf⟩ := List.exists_of_findSome?_eq_some h
  exact List.find?_some hf

theorem findLocal?_eq_none_iff (h : t.Acyclic) {locals : List Local} {name : Identifier} {scope : Nat} :
    t.findLocal? locals name scope = none ↔ ∀ index, ¬ t.Binds locals name scope index := by
  rw [Option.eq_none_iff_forall_ne_some]
  exact forall_congr' fun index => not_congr (findLocal?_eq_some_iff h)

end NestedQuery.Scope.Tree
