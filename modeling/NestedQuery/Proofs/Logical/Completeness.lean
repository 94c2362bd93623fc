/-
A frame is complete before anything looks at it. Once a reference records a frame, or a frame opens inside of it, the
frame takes no more locals. So what can be seen from the frame of a reference in the finished tree is what could be seen
when the reference was made.
-/
import NestedQuery.Proofs.Logical.Course
import NestedQuery.Proofs.Scope.Layout

namespace NestedQuery

namespace Logical

open Scope (Frame)

variable {fresh : Bool} {s : BuildState}

/-- The frames that take no more locals: all but one that is still fresh. -/
def settled (fresh : Bool) (s : BuildState) : List Frame :=
  if fresh then s.scopes.tree.frames.dropLast else s.scopes.tree.frames

theorem settled_prefix_frames (fresh : Bool) (s : BuildState) : settled fresh s <+: s.scopes.tree.frames := by
  cases fresh with
  | false => exact List.prefix_rfl
  | true => exact List.dropLast_prefix _

/-- What a step looks at: a reference the frame that it records, and a frame that opens the one that it opens in. -/
def Step.LooksAt (s : BuildState) (scope : Nat) : Step → Prop
  | .refer r => r.scope = scope
  | .openFrame _ => s.scopes.current = scope
  | _ => False

theorem run_declare_scopes (s : BuildState) (a : Syntax.Alias) :
    (Step.run s (.declare a)).scopes = s.scopes.declare a.name := by
  show ((declare a.name a.location).run s).2.scopes = _
  rw [declare_run_eq]

theorem settled_openFrame (s : BuildState) (kind : Scope.FrameKind) :
    settled true (Step.run s (.openFrame kind)) = s.scopes.tree.frames := List.dropLast_concat

theorem settled_declare (hl : s.scopes.Laid true) (a : Syntax.Alias) :
    settled true (Step.run s (.declare a)) = settled true s := by
  obtain ⟨before, f, hf, hd⟩ := hl.frames_declare a.name
  show (Step.run s (.declare a)).scopes.tree.frames.dropLast = s.scopes.tree.frames.dropLast
  rw [run_declare_scopes, hf, hd, List.dropLast_concat, List.dropLast_concat]

namespace Orderly

/-- A step keeps the recording laid out and the settled frames as they are. One that looks at a frame settles all. -/
theorem next {step : Step} {steps : List Step} (h : Orderly fresh s (step :: steps)) (hl : s.scopes.Laid fresh) :
    ∃ fresh', Orderly fresh' (step.run s) steps ∧ (step.run s).scopes.Laid fresh' ∧
      settled fresh s <+: settled fresh' (step.run s) ∧
      ∀ scope, step.LooksAt s scope → s.scopes.tree.frames <+: settled fresh' (step.run s) := by
  cases h with
  | @openFrame _ _ kind _ hk h =>
    have hs : s.scopes.tree.frames <+: settled true (Step.run s (.openFrame kind)) :=
      settled_openFrame s kind ▸ List.prefix_rfl
    exact ⟨true, h, hl.openFrame hk, (settled_prefix_frames fresh s).trans hs, fun _ _ => hs⟩
  | closeTo h => exact ⟨false, h, hl.closeTo _, settled_prefix_frames fresh s, fun _ hs => hs.elim⟩
  | @declare _ a _ h =>
    refine ⟨true, h, ?_, settled_declare hl a ▸ List.prefix_rfl, fun _ hs => hs.elim⟩
    rw [run_declare_scopes]
    exact hl.declare a.name
  | refer _ h => exact ⟨false, h, hl.of_fresh, settled_prefix_frames fresh s, fun _ _ => List.prefix_rfl⟩

theorem replayed {before after : List Step} (h : Orderly fresh s (before ++ after)) (hl : s.scopes.Laid fresh) :
    ∃ fresh', Orderly fresh' (replay s before) after ∧ (replay s before).scopes.Laid fresh' ∧
      settled fresh s <+: settled fresh' (replay s before) := by
  induction before generalizing fresh s with
  | nil => exact ⟨fresh, h, hl, List.prefix_rfl⟩
  | cons step before ih =>
    obtain ⟨fresh', h, hl, hs, -⟩ := h.next hl
    obtain ⟨fresh'', h, hl, hs'⟩ := ih h hl
    exact ⟨fresh'', h, hl, hs.trans hs'⟩

/-- A local is declared in a frame that has just opened, right after it or after other locals of it. -/
theorem declared {before after : List Step} {a : Syntax.Alias} (h : Orderly fresh s (before ++ .declare a :: after)) :
    (fresh = true ∧ ∃ as : List Syntax.Alias, before = as.map .declare) ∨
      ∃ earlier kind, ∃ as : List Syntax.Alias, before = earlier ++ .openFrame kind :: as.map .declare := by
  induction before generalizing fresh s with
  | nil =>
    cases h
    exact .inl ⟨rfl, [], rfl⟩
  | cons step before ih =>
    cases h with
    | @openFrame _ _ kind _ _ h =>
      obtain ⟨-, as, rfl⟩ | ⟨earlier, kind', as, rfl⟩ := ih h
      · exact .inr ⟨[], kind, as, rfl⟩
      · exact .inr ⟨.openFrame kind :: earlier, kind', as, rfl⟩
    | @closeTo _ _ depth _ h =>
      obtain ⟨hf, -⟩ | ⟨earlier, kind, as, rfl⟩ := ih h
      · cases hf
      · exact .inr ⟨.closeTo depth :: earlier, kind, as, rfl⟩
    | @declare _ b _ h =>
      obtain ⟨-, as, rfl⟩ | ⟨earlier, kind, as, rfl⟩ := ih h
      · exact .inl ⟨rfl, b :: as, rfl⟩
      · exact .inr ⟨.declare b :: earlier, kind, as, rfl⟩
    | @refer _ _ r _ _ h =>
      obtain ⟨hf, -⟩ | ⟨earlier, kind, as, rfl⟩ := ih h
      · cases hf
      · exact .inr ⟨.refer r :: earlier, kind, as, rfl⟩

end Orderly

end Logical

open Logical

/-- The frames and locals of a plan are laid out. -/
theorem LogicalPlan.build_laidOut (s : Syntax.Statement) :
    (LogicalPlan.build s).1.scopes.LaidOut (LogicalPlan.build s).1.locals := by
  obtain ⟨steps, ht, ho, -⟩ := planStatement_plans s .start
  rw [← List.append_nil steps] at ho
  obtain ⟨fresh, -, hl, -⟩ := ho.replayed Scope.Recorder.laid_start
  rw [ht.replay_eq] at hl
  exact hl.tree

end NestedQuery
