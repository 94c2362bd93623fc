/-
Names declared twice. Planning checks each name against the frame that is current, while the frame still grows. In the
tree that comes out of it, a local is reported exactly if its frame has an earlier local of the same name in any case:
a local goes to the frame that it was checked against, and each frame lists its locals in the order of their numbers.
-/
import NestedQuery.Proofs.Logical.Course
import NestedQuery.Proofs.Scope.Consistency
import Mathlib.Data.List.Pairwise

namespace NestedQuery

/-! ## Repetitions in a tree -/

namespace Scope

/-- The locals of two numbers have the same name in any case. -/
def clash (locals : List Local) (i j : Nat) : Bool :=
  match locals[i]?, locals[j]? with
  | some a, some b => a.name.sameName b.name
  | _, _ => false

/-- The frame has the local `i`, and an earlier local of the same name. -/
def Frame.repeats (f : Frame) (locals : List Local) (i : Nat) : Bool :=
  f.locals.contains i && f.locals.any fun j => decide (j < i) && clash locals j i

/-- Some frame has the local `i` and an earlier local of the same name. -/
def Tree.repeats (t : Tree) (locals : List Local) (i : Nat) : Bool := t.frames.any (·.repeats locals i)

variable {locals : List Local} {i j : Nat}

theorem clash_iff : clash locals i j = true ↔
    ∃ a b, locals[i]? = some a ∧ locals[j]? = some b ∧ a.name.sameName b.name = true := by
  unfold clash
  rcases locals[i]? with _ | a <;> rcases locals[j]? with _ | b <;> simp

theorem clash_comm (locals : List Local) (i j : Nat) : clash locals i j = clash locals j i := by
  unfold clash
  rcases locals[i]? with _ | a
  · rcases locals[j]? with _ | b <;> rfl
  · rcases locals[j]? with _ | b
    · rfl
    · exact Text.eqIgnoreCase_comm a.name.text b.name.text

/-- Where names differ pairwise, two locals of one name are the same local. -/
theorem eq_of_clash {indices : List Nat} (h : indices.Pairwise fun i j => clash locals i j = false) (hi : i ∈ indices)
    (hj : j ∈ indices) (hc : clash locals i j = true) : i = j := by
  have hsymm : Std.Symm fun i j => clash locals i j = false := ⟨fun i j hij => by rwa [clash_comm]⟩
  by_contra hne
  rw [h.forall hi hj hne] at hc
  cases hc

theorem namesLocal_iff {name : Identifier} : Tree.namesLocal locals name i = true ↔
    ∃ a, locals[i]? = some a ∧ name.names a.name.text = true := by
  unfold Tree.namesLocal
  rcases locals[i]? with _ | a <;> simp

/-- Two locals that one identifier names have the same name in any case. -/
theorem clash_of_namesLocal {name : Identifier} (hi : Tree.namesLocal locals name i = true)
    (hj : Tree.namesLocal locals name j = true) : clash locals i j = true := by
  obtain ⟨a, ha, hna⟩ := namesLocal_iff.1 hi
  obtain ⟨b, hb, hnb⟩ := namesLocal_iff.1 hj
  refine clash_iff.2 ⟨a, b, ha, hb, ?_⟩
  have hna := Identifier.eqIgnoreCase_of_names hna
  rw [Text.eqIgnoreCase_comm] at hna
  exact Text.eqIgnoreCase_trans hna (Identifier.eqIgnoreCase_of_names hnb)

theorem Frame.repeats_iff {f : Frame} : f.repeats locals i = true ↔
    i ∈ f.locals ∧ ∃ j ∈ f.locals, j < i ∧ clash locals j i = true := by
  simp [Frame.repeats]

theorem Tree.repeats_iff {t : Tree} : t.repeats locals i = true ↔
    ∃ f ∈ t.frames, i ∈ f.locals ∧ ∃ j ∈ f.locals, j < i ∧ clash locals j i = true := by
  simp [Tree.repeats, Frame.repeats]

/-! ### Declaring one more local -/

theorem clash_concat (l : Local) (hi : i < locals.length) (hj : j < locals.length) :
    clash (locals ++ [l]) i j = clash locals i j := by
  unfold clash
  rw [List.getElem?_append_left hi, List.getElem?_append_left hj]

/-- Whether a local repeats a name depends on the locals before it only. -/
theorem Frame.repeats_concat (f : Frame) (l : Local) (hi : i < locals.length) :
    f.repeats (locals ++ [l]) i = f.repeats locals i := by
  rw [Bool.eq_iff_iff, repeats_iff, repeats_iff]
  refine and_congr_right fun _ => exists_congr fun j => and_congr_right fun _ => and_congr_right fun hj => ?_
  rw [clash_concat l (hj.trans hi) hi]

theorem Frame.repeats_addLocal (f : Frame) {n : Nat} (hi : i < n) :
    Frame.repeats { f with locals := f.locals ++ [n] } locals i = f.repeats locals i := by
  rw [Bool.eq_iff_iff, repeats_iff, repeats_iff]
  have hmem : ∀ j, j ≤ i → (j ∈ f.locals ++ [n] ↔ j ∈ f.locals) := by
    intro j hj
    have : j ≠ n := by omega
    simp [this]
  refine and_congr (hmem i (Nat.le_refl i)) (exists_congr fun j => ?_)
  constructor
  · rintro ⟨hj, hlt, hc⟩
    exact ⟨(hmem j hlt.le).1 hj, hlt, hc⟩
  · rintro ⟨hj, hlt, hc⟩
    exact ⟨(hmem j hlt.le).2 hj, hlt, hc⟩

theorem Frame.repeats_of_lt {f : Frame} (h : ∀ j ∈ f.locals, j < i) : f.repeats locals i = false := by
  rw [Bool.eq_false_iff, Ne, repeats_iff]
  rintro ⟨hi, -⟩
  exact Nat.lt_irrefl i (h i hi)

/-- A new local repeats a name if it is the name of one of the locals that the frame has so far. -/
theorem Frame.repeats_last {f : Frame} (h : ∀ j ∈ f.locals, j < locals.length) (l : Local) :
    Frame.repeats { f with locals := f.locals ++ [locals.length] } (locals ++ [l]) locals.length =
      (f.locals.filterMap (locals[·]?)).any (·.name.sameName l.name) := by
  rw [Bool.eq_iff_iff, repeats_iff, List.any_eq_true]
  have hlast : (locals ++ [l])[locals.length]? = some l := List.getElem?_concat_length
  constructor
  · rintro ⟨-, j, hj, hlt, hc⟩
    obtain ⟨a, b, ha, hb, hs⟩ := clash_iff.1 hc
    rw [hlast] at hb
    cases hb
    rw [List.getElem?_append_left hlt] at ha
    have hj : j ∈ f.locals := by
      rcases List.mem_append.1 hj with hj | hj
      · exact hj
      · exact absurd hlt (List.mem_singleton.1 hj ▸ Nat.lt_irrefl _)
    exact ⟨a, List.mem_filterMap.2 ⟨j, hj, ha⟩, hs⟩
  · rintro ⟨a, ha, hs⟩
    obtain ⟨j, hj, ha⟩ := List.mem_filterMap.1 ha
    refine ⟨List.mem_append_right _ List.mem_cons_self, j, List.mem_append_left _ hj, h j hj, ?_⟩
    exact clash_iff.2 ⟨a, l, by rwa [List.getElem?_append_left (h j hj)], hlast, hs⟩

section AddLocal

variable {t : Tree} {scope : Nat} {f : Frame} (hf : t.frame? scope = some f)

include hf

theorem Tree.repeats_addLocal (l : Local) (hi : i < locals.length) :
    (t.addLocal scope locals.length).repeats (locals ++ [l]) i = t.repeats locals i := by
  obtain ⟨before, after, hframes, hadd⟩ := Tree.frames_addLocal hf locals.length
  unfold Tree.repeats
  rw [hframes, hadd]
  simp only [List.any_append, List.any_cons, Frame.repeats_concat _ l hi, Frame.repeats_addLocal _ hi]

theorem Tree.repeats_last (hlt : ∀ f ∈ t.frames, ∀ j ∈ f.locals, j < locals.length) (l : Local) :
    (t.addLocal scope locals.length).repeats (locals ++ [l]) locals.length =
      (f.locals.filterMap (locals[·]?)).any (·.name.sameName l.name) := by
  obtain ⟨before, after, hframes, hadd⟩ := Tree.frames_addLocal hf locals.length
  rw [hframes] at hlt
  have hother : ∀ g ∈ before ++ f :: after, g.repeats (locals ++ [l]) locals.length = false :=
    fun g hg => Frame.repeats_of_lt (hlt g hg)
  have hbefore : before.any (·.repeats (locals ++ [l]) locals.length) = false :=
    List.any_eq_false.2 fun g hg => by simp [hother g (List.mem_append_left _ hg)]
  have hafter : after.any (·.repeats (locals ++ [l]) locals.length) = false :=
    List.any_eq_false.2 fun g hg => by simp [hother g (List.mem_append_right _ (List.mem_cons_of_mem _ hg))]
  unfold Tree.repeats
  rw [hadd, List.any_append, List.any_cons, hbefore, hafter, Bool.false_or, Bool.or_false]
  exact Frame.repeats_last (hlt f (List.mem_append_right _ List.mem_cons_self)) l

end AddLocal

end Scope

/-! ## Repetitions in a run -/

namespace Logical

open Syntax (Alias)

/-- The problems that a list of declarations makes: one for each that repeats a name of its frame. -/
def repetitions (tree : Scope.Tree) (locals : List Local) (as : List Alias) : List Problem :=
  (as.zipIdx.filter fun p => tree.repeats locals p.2).map fun p => ⟨p.1.location, .previouslyDefined p.1.name⟩

/-- What a run has recorded once the given locals are declared. -/
structure Recorded (as : List Alias) (t : BuildState) : Prop where
  locals : t.scopes.locals = as.mapIdx fun i a => ⟨a.name, i⟩
  problems : t.problems = repetitions t.scopes.tree t.scopes.locals as

/-- A frame that has no locals yet repeats nothing. -/
theorem repetitions_openFrame (r : Scope.Recorder) (kind : Scope.FrameKind) (as : List Alias) :
    repetitions (r.openFrame kind).tree r.locals as = repetitions r.tree r.locals as := by
  have hrepeats : ∀ i, (r.openFrame kind).tree.repeats r.locals i = r.tree.repeats r.locals i := by
    intro i
    have hframes : (r.openFrame kind).tree.frames = r.tree.frames ++ [⟨_, _, kind, []⟩] := rfl
    unfold Scope.Tree.repeats
    rw [hframes, List.any_append]
    exact Bool.or_false _
  unfold repetitions
  simp only [hrepeats]

namespace Recorded

variable {as : List Alias} {t t' : BuildState}

/-- A local goes to the frame that it was checked against. -/
theorem declare (h : Recorded as t) (hc : t.scopes.Consistent) {a : Alias} {d : Declaration}
    (hd : (declareAlias a).run t = (d, t')) : Recorded (as ++ [a]) t' := by
  obtain ⟨f, hf⟩ := hc.frame?_current
  have hcurrent : t.scopes.currentLocals = f.locals.filterMap (t.scopes.locals[·]?) := by
    unfold Scope.Recorder.currentLocals
    rw [hf]
  have hlength : t.scopes.locals.length = as.length := by rw [h.locals, List.length_mapIdx]
  cases (declare_run_eq a.name a.location t).symm.trans hd
  refine ⟨?_, ?_⟩
  · show t.scopes.locals ++ [⟨a.name, t.scopes.locals.length⟩] = _
    rw [List.mapIdx_concat, ← h.locals, hlength]
  · have hlast := Scope.Tree.repeats_last hf (fun _ hg _ hi => hc.lt_of_mem hg hi) ⟨a.name, t.scopes.locals.length⟩
    show t.problems ++ _ =
      repetitions (t.scopes.tree.addLocal _ t.scopes.locals.length)
        (t.scopes.locals ++ [⟨a.name, t.scopes.locals.length⟩]) (as ++ [a])
    unfold repetitions
    rw [List.zipIdx_append, List.filter_append, List.map_append, h.problems]
    congr 1
    -- the locals before repeat what they did, and the new one what its frame had when it was checked
    · refine congrArg (List.map _) (List.filter_congr fun ⟨b, i⟩ hi => ?_)
      have hi : i < t.scopes.locals.length := by
        have := List.snd_lt_of_mem_zipIdx hi
        omega
      exact (Scope.Tree.repeats_addLocal hf _ hi).symm
    · rw [List.zipIdx_singleton, Nat.zero_add, ← hlength, List.filter_singleton, hlast, hcurrent]
      cases (f.locals.filterMap (t.scopes.locals[·]?)).any (·.name.sameName a.name) <;> rfl

end Recorded

theorem Run.recorded {as : List Alias} {t : BuildState} (h : Run .start as t) : Recorded as t := by
  induction h with
  | none => exact ⟨rfl, rfl⟩
  | openFrame kind _ ih => exact ⟨ih.locals, ih.problems.trans (repetitions_openFrame _ kind _).symm⟩
  | closeTo depth _ ih => exact ⟨ih.locals, ih.problems⟩
  | declare hr hd ih => exact ih.declare hr.consistent hd

/-- Without a repetition no local repeats a name. -/
theorem repetitions_eq_nil {tree : Scope.Tree} {locals : List Local} {as : List Alias}
    (hlength : locals.length = as.length) :
    repetitions tree locals as = [] ↔ ∀ i < locals.length, tree.repeats locals i = false := by
  unfold repetitions
  rw [List.map_eq_nil_iff, List.filter_eq_nil_iff, hlength]
  constructor
  · intro hall i hi
    have hm : (as[i], i) ∈ as.zipIdx := List.mk_mem_zipIdx_iff_getElem?.2 (List.getElem?_eq_getElem hi)
    simpa using hall _ hm
  · rintro hall ⟨a, i⟩ hm
    simp [hall i (by simpa using List.snd_lt_of_mem_zipIdx hm)]

/-- A run reports nothing just when the locals of each frame have different names. -/
theorem Run.problems_eq_nil {as : List Alias} {t : BuildState} (h : Run .start as t) : t.problems = [] ↔
    ∀ f ∈ t.scopes.tree.frames, f.locals.Pairwise fun i j => Scope.clash t.scopes.locals i j = false := by
  have hc := h.consistent
  have hlength : t.scopes.locals.length = as.length := by rw [h.recorded.locals, List.length_mapIdx]
  rw [h.recorded.problems, repetitions_eq_nil hlength]
  constructor
  · intro hall f hf
    -- a frame lists its locals in order, so of two that clash the second is the later and would be reported
    refine List.Pairwise.imp_of_mem (fun {i j} hi hj hlt => ?_) (hc.ascending f hf)
    by_contra hclash
    have hr := Scope.Tree.repeats_iff.2 ⟨f, hf, hj, i, hi, hlt, Bool.eq_true_of_not_eq_false hclash⟩
    rw [hall j (hc.lt_of_mem hf hj)] at hr
    cases hr
  · intro hpair i _
    rw [Bool.eq_false_iff, Ne, Scope.Tree.repeats_iff]
    rintro ⟨f, hf, hi, j, hj, hlt, hclash⟩
    exact hlt.ne (Scope.eq_of_clash (hpair f hf) hj hi hclash)

end Logical

/-! ## Repetitions in a statement -/

/-- Each local is in one frame, and there once. The problems of planning are the locals that repeat a name of their
frame, in order. Without any, the locals of each frame have different names, and an identifier names at most one of
them. -/
theorem LogicalPlan.build_repetitions (s : Syntax.Statement) :
    let plan := (build s).1
    let problems := (build s).2
    plan.locals = s.declared.mapIdx (fun i a => ⟨a.name, i⟩) ∧
      (plan.scopes.frames.flatMap (·.locals)).Perm (List.range plan.locals.length) ∧
      problems = (s.declared.zipIdx.filter fun p => plan.scopes.repeats plan.locals p.2).map
        (fun p => ⟨p.1.location, .variablePreviouslyDefined p.1.name.text⟩) ∧
      (problems = [] ↔
        ∀ f ∈ plan.scopes.frames, f.locals.Pairwise fun i j => Scope.clash plan.locals i j = false) ∧
      (problems = [] → ∀ f ∈ plan.scopes.frames, ∀ (name : Identifier), ∀ i ∈ f.locals, ∀ j ∈ f.locals,
        Scope.Tree.namesLocal plan.locals name i = true → Scope.Tree.namesLocal plan.locals name j = true → i = j) := by
  intro plan problems
  have hrun := Logical.planStatement_declares s .start
  have hnil := hrun.problems_eq_nil
  refine ⟨hrun.recorded.locals, hrun.consistent.locals, hrun.recorded.problems, hnil, ?_⟩
  intro hproblems f hf name i hi j hj hni hnj
  exact Scope.eq_of_clash (hnil.1 hproblems f hf) hi hj (Scope.clash_of_namesLocal hni hnj)

end NestedQuery
