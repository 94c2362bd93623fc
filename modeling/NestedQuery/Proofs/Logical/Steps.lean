/-
Planning as a sequence of steps. Whatever is planned, the state changes only by opening a frame, by closing frames and
by declaring a local, so what each of these keeps is kept by planning as a whole. A fourth step leaves the state as it
is: a reference is made that records a frame. `Takes` reads the steps off a planning program, and `Orderly` says of
steps that a frame takes its locals right after it opens, before anything looks at it.
-/
import NestedQuery.Logical.Build
import NestedQuery.Plan.Vars
import NestedQuery.Proofs.Logical.Recording
import NestedQuery.Proofs.Syntax.Declared

namespace NestedQuery.Logical

open Scope (FrameKind)
open Syntax (Alias)

/-! ## Declarations -/

/-- A declaration is reported if the frame already has its name, in any case. -/
theorem declare_problems {s t : BuildState} {name : Identifier} {location : Location} {d : Declaration}
    (h : (declare name location).run s = (d, t)) :
    t.problems = s.problems ++ if s.scopes.currentLocals.any (·.name.sameName name) then
      [⟨location, .previouslyDefined name⟩] else [] := by
  obtain ⟨_, _, hg, h⟩ := run_bind h
  cases hg
  dsimp only at h
  split at h
  · next hn =>
    obtain ⟨_, t, hr, h⟩ := run_bind h
    cases hr
    obtain ⟨rfl, rfl⟩ := Prod.mk.inj h
    rw [if_pos hn]
  · next hn =>
    obtain ⟨rfl, rfl⟩ := Prod.mk.inj h
    rw [if_neg hn, List.append_nil]

theorem declare_run_eq (name : Identifier) (location : Location) (s : BuildState) :
    (declare name location).run s =
      (⟨name, s.scopes.nextLocal, location⟩, ⟨s.scopes.declare name, s.problems ++
        if s.scopes.currentLocals.any (·.name.sameName name) then [⟨location, .previouslyDefined name⟩] else []⟩) := by
  rcases h : (declare name location).run s with ⟨d, ⟨scopes, problems⟩⟩
  obtain ⟨rfl, rfl⟩ := declare_run h
  cases declare_problems h
  rfl

theorem declareOr_location (a : Option Alias) (name : Identifier) (location : Location) (s : BuildState) :
    ((declareOr a name location).run s).1.location = (a.map (·.location)).getD location := by
  cases a with
  | none => exact congrArg (·.1.location) (declare_run_eq name location s)
  | some a => exact congrArg (·.1.location) (declare_run_eq a.name a.location s)

/-! ## Runs -/

/-- From `s` planning has come to a state by steps that declared the given locals in order. -/
inductive Run (s : BuildState) : List Alias → BuildState → Prop
  | none : Run s [] s
  | openFrame {as : List Alias} {t : BuildState} (kind : Scope.FrameKind) :
      Run s as t → Run s as { t with scopes := t.scopes.openFrame kind }
  | closeTo {as : List Alias} {t : BuildState} (depth : Nat) :
      Run s as t → Run s as { t with scopes := t.scopes.closeTo depth }
  | declare {as : List Alias} {t t' : BuildState} {a : Alias} {d : Declaration} :
      Run s as t → (declareAlias a).run t = (d, t') → Run s (as ++ [a]) t'

theorem Run.trans {s t u : BuildState} {as bs : List Alias} (h : Run s as t) (k : Run t bs u) : Run s (as ++ bs) u := by
  induction k with
  | none => rwa [List.append_nil]
  | openFrame kind _ ih => exact ih.openFrame kind
  | closeTo depth _ ih => exact ih.closeTo depth
  | declare _ hd ih => exact List.append_assoc as _ _ ▸ ih.declare hd

/-- Opening and closing frames keeps what is recorded together, and so does a declaration. -/
theorem Run.consistent {as : List Alias} {t : BuildState} (h : Run .start as t) : t.scopes.Consistent := by
  induction h with
  | none => exact Scope.Recorder.consistent_start
  | openFrame kind _ ih => exact ih.openFrame kind
  | closeTo depth _ ih => exact ih.closeTo depth
  | declare _ hd ih =>
    obtain ⟨-, hd⟩ := declare_run hd
    rw [hd]
    exact ih.declare _

/-- From every state, what is run takes steps that declare the given locals. -/
def Declares {α : Type} (as : List Alias) (x : Build α) : Prop := ∀ s, Run s as (x.run s).2

/-! ## Steps -/

/-- A step of planning. -/
inductive Step where
  | openFrame (kind : FrameKind)
  | closeTo (depth : Nat)
  | declare (a : Alias)
  /-- A reference is made. -/
  | refer (r : Reference)

namespace Step

/-- The state after a step. -/
def run (s : BuildState) : Step → BuildState
  | .openFrame kind => { s with scopes := s.scopes.openFrame kind }
  | .closeTo depth => { s with scopes := s.scopes.closeTo depth }
  | .declare a => ((declareAlias a).run s).2
  | .refer _ => s

def alias? : Step → Option Alias
  | .declare a => some a
  | _ => none

def reference? : Step → Option Reference
  | .refer r => some r
  | _ => none

end Step

/-- The state after steps one after the other. -/
def replay (s : BuildState) (steps : List Step) : BuildState := steps.foldl Step.run s

theorem replay_append (s : BuildState) (steps steps' : List Step) :
    replay s (steps ++ steps') = replay (replay s steps) steps' := List.foldl_append

/-- References leave the state as it is. -/
theorem replay_refers (s : BuildState) (made : List Reference) : replay s (made.map .refer) = s := by
  induction made with
  | nil => rfl
  | cons r made ih => exact ih

/-- What steps record is a run that declares their locals. -/
theorem run_replay (s : BuildState) (steps : List Step) : Run s (steps.filterMap Step.alias?) (replay s steps) := by
  induction steps generalizing s with
  | nil => exact .none
  | cons step steps ih =>
    cases step with
    | openFrame kind => exact (Run.none.openFrame kind).trans (ih _)
    | closeTo depth => exact (Run.none.closeTo depth).trans (ih _)
    | declare a => exact (Run.none.declare rfl).trans (ih _)
    | refer r => exact ih s

/-- The references that nobody writes come into being with a result: those of `SELECT *` with the projection that they
stand in, that of a row which is inserted with the block that goes through these rows, and that of a row of the source
with the mutation that reads it. -/
inductive Returns : {α : Type} → α → List Reference → Prop
  | plain {α : Type} (a : α) : Returns a []
  | star (aliases : List SourceAlias) (grouping : Option Grouping) (scope : Nat) :
      Returns (star aliases grouping scope) (star aliases grouping scope).vars
  | inserted (each : Plan.Relation Reference) (d : Declaration) (scope : Nat) :
      Returns (Plan.Expr.query (.of (.project each (.value (.var (d.reference scope))) .all))) [d.reference scope]
  | row (action : Plan.Action) (target : Reference) {rows : MutationRows} {value : Plan.Expr Reference} :
      rows.rowDecl.reference rows.scope ∈ value.vars →
      Returns (Plan.Mutation.mk action target (rows.selectValue value)) [rows.rowDecl.reference rows.scope]

/-- Run from a state, a planning program takes the given steps: those of the operations that it is made of, and the
references that a result comes with when it is returned. -/
inductive Takes : {α : Type} → Build α → BuildState → List Step → Prop
  | pure {α : Type} {s : BuildState} {a : α} {made : List Reference} : Returns a made →
      Takes (Pure.pure a) s (made.map .refer)
  | bind {α β : Type} {x : Build α} {k : α → Build β} {s : BuildState} {steps steps' : List Step} :
      Takes x s steps → Takes (k (x.run s).1) (x.run s).2 steps' → Takes (x >>= k) s (steps ++ steps')
  | currentScope {s : BuildState} : Takes currentScope s []
  | reference {s : BuildState} (v : Syntax.Var) (role : Role) :
      Takes (reference v role) s [.refer ((reference v role).run s).1]
  | openFrame {s : BuildState} (kind : FrameKind) : Takes (openFrame kind) s [.openFrame kind]
  | inFrame {α : Type} {body : Build α} {s : BuildState} {steps : List Step} (kind : FrameKind) :
      Takes body { s with scopes := s.scopes.openFrame kind } steps →
      Takes (inFrame kind body) s (.openFrame kind :: steps ++ [.closeTo s.scopes.depth])
  | declare {s : BuildState} (name : Identifier) (location : Location) :
      Takes (declare name location) s [.declare ⟨name, location⟩]

/-- The steps lead to the state that the program leaves. -/
theorem Takes.replay_eq {α : Type} {x : Build α} {s : BuildState} {steps : List Step} (h : Takes x s steps) :
    replay s steps = (x.run s).2 := by
  induction h with
  | pure _ => exact replay_refers _ _
  | bind _ _ ih ih' => rw [replay_append, ih, ih']; rfl
  | currentScope => rfl
  | reference => rfl
  | openFrame => rfl
  | @inFrame _ body s steps kind _ ih =>
    rw [replay_append]
    show Step.run (replay (Step.run s (.openFrame kind)) steps) (.closeTo s.scopes.depth) = _
    rw [show replay (Step.run s (.openFrame kind)) steps = _ from ih]
    rfl
  | declare => rfl

/-! ## Orderly steps -/

/-- The frame is there, or it is the current one. -/
def Knows (s : BuildState) (scope : Nat) : Prop := scope = s.scopes.current ∨ scope < s.scopes.nextFrame

/-- Steps in which a frame takes no more locals once something has looked at it. While `fresh`, the current frame is the
one that opened last and nothing has looked at it yet; a local is declared only then. No frame is opened as the root
frame, and a reference records a frame that is there. -/
inductive Orderly : Bool → BuildState → List Step → Prop
  | nil {fresh : Bool} {s : BuildState} : Orderly fresh s []
  | openFrame {fresh : Bool} {s : BuildState} {kind : FrameKind} {steps : List Step} : kind ≠ .statement →
      Orderly true (Step.run s (.openFrame kind)) steps → Orderly fresh s (.openFrame kind :: steps)
  | closeTo {fresh : Bool} {s : BuildState} {depth : Nat} {steps : List Step} :
      Orderly false (Step.run s (.closeTo depth)) steps → Orderly fresh s (.closeTo depth :: steps)
  | declare {s : BuildState} {a : Alias} {steps : List Step} :
      Orderly true (Step.run s (.declare a)) steps → Orderly true s (.declare a :: steps)
  | refer {fresh : Bool} {s : BuildState} {r : Reference} {steps : List Step} : Knows s r.scope →
      Orderly false s steps → Orderly fresh s (.refer r :: steps)

namespace Orderly

variable {fresh : Bool} {s : BuildState} {steps steps' : List Step}

theorem of_false (h : Orderly false s steps) : Orderly fresh s steps := by
  cases h with
  | nil => exact .nil
  | openFrame hk h => exact .openFrame hk h
  | closeTo h => exact .closeTo h
  | refer hr h => exact .refer hr h

theorem append (h : Orderly fresh s steps) (h' : Orderly false (replay s steps) steps') :
    Orderly fresh s (steps ++ steps') := by
  induction h with
  | nil => exact h'.of_false
  | openFrame hk _ ih => exact .openFrame hk (ih h')
  | closeTo _ ih => exact .closeTo (ih h')
  | declare _ ih => exact .declare (ih h')
  | refer hr _ ih => exact .refer hr (ih h')

/-- Locals are declared in a fresh frame, which stays so. -/
theorem declares : ∀ {as : List Alias} {s : BuildState}, Orderly true (replay s (as.map .declare)) steps →
    Orderly true s (as.map .declare ++ steps)
  | [], _, h => h
  | _ :: _, _, h => .declare (declares h)

theorem refers : ∀ {rs : List Reference} {fresh : Bool}, (∀ r ∈ rs, Knows s r.scope) → Orderly fresh s (rs.map .refer)
  | [], _, _ => .nil
  | r :: _, _, h => .refer (h r List.mem_cons_self) (refers fun r' hr => h r' (List.mem_cons_of_mem r hr))

end Orderly

/-- Frames are never taken back. -/
theorem nextFrame_le_replay (s : BuildState) (steps : List Step) :
    s.scopes.nextFrame ≤ (replay s steps).scopes.nextFrame := by
  induction steps generalizing s with
  | nil => exact Nat.le_refl _
  | cons step steps ih =>
    refine Nat.le_trans ?_ (ih _)
    cases step with
    | openFrame kind =>
      show s.scopes.tree.frames.length ≤ (s.scopes.tree.frames ++ [_]).length
      rw [List.length_append]
      exact Nat.le_add_right _ _
    | closeTo depth => exact Nat.le_refl _
    | declare a =>
      show _ ≤ ((declare a.name a.location).run s).2.scopes.nextFrame
      rw [declare_run_eq]
      exact Nat.le_of_eq (List.length_modify ..).symm
    | refer r => exact Nat.le_refl _

/-! ## What is planned -/

/-- Run from `s`, a program takes orderly steps that declare `as`. Each of the references `rs` is made on the way, or
was made before and is among `known`. -/
def Plans {α : Type} (known : List Reference) (fresh : Bool) (x : Build α) (s : BuildState) (as : List Alias)
    (rs : List Reference) : Prop :=
  ∃ steps, Takes x s steps ∧ Orderly fresh s steps ∧ steps.filterMap Step.alias? = as ∧
    ∀ r ∈ rs, r ∈ known ∨ r ∈ steps.filterMap Step.reference?

/-- A program does nothing but declare `as` in the current frame. -/
def OnlyDeclares {α : Type} (x : Build α) (as : List Alias) : Prop := ∀ s, Takes x s (as.map .declare)

theorem filterMap_alias?_declare (as : List Alias) : (as.map Step.declare).filterMap Step.alias? = as := by
  rw [List.filterMap_map]
  exact List.filterMap_some

namespace Plans

variable {α β : Type} {known rs rs' : List Reference} {fresh : Bool} {s : BuildState} {as bs : List Alias} {x : Build α}
  {k : α → Build β}

theorem of_mem (h : Plans known fresh x s as rs) (hr : ∀ r ∈ rs', r ∈ known ∨ r ∈ rs) :
    Plans known fresh x s as rs' := by
  obtain ⟨steps, ht, ho, ha, hm⟩ := h
  exact ⟨steps, ht, ho, ha, fun r h => (hr r h).elim .inl (hm r)⟩

theorem congr (h : Plans known fresh x s as rs) (hr : rs' = rs) : Plans known fresh x s as rs' := hr ▸ h

theorem of_false (h : Plans known false x s as rs) : Plans known fresh x s as rs := by
  obtain ⟨steps, ht, ho, ha, hm⟩ := h
  exact ⟨steps, ht, ho.of_false, ha, hm⟩

theorem grows (h : Plans known fresh x s as rs) : s.scopes.nextFrame ≤ (x.run s).2.scopes.nextFrame := by
  obtain ⟨steps, ht, -⟩ := h
  rw [← ht.replay_eq]
  exact nextFrame_le_replay s steps

theorem declares (h : Plans known fresh x s as rs) : Run s as (x.run s).2 := by
  obtain ⟨steps, ht, -, rfl, -⟩ := h
  rw [← ht.replay_eq]
  exact run_replay s steps

/-- With its result a program makes references to locals whose frames are there. -/
theorem made {a : α} (ha : Returns a rs) (h : ∀ r ∈ rs, Knows s r.scope) : Plans known fresh (pure a) s [] rs := by
  refine ⟨_, .pure ha, .refers h, ?_, fun r hr => .inr ?_⟩
  · exact List.filterMap_eq_nil_iff.2 fun _ h => by obtain ⟨r, -, rfl⟩ := List.mem_map.1 h; rfl
  · rw [List.filterMap_map]
    simpa [Step.reference?] using hr

theorem pure (a : α) : Plans known fresh (Pure.pure a) s [] [] := made (.plain a) (List.forall_mem_nil _)

/-- What `x` has made is known from there on. -/
theorem bind (hx : Plans known fresh x s as rs) (hk : Plans (known ++ rs) false (k (x.run s).1) (x.run s).2 bs rs') :
    Plans known fresh (x >>= k) s (as ++ bs) (rs ++ rs') := by
  obtain ⟨steps, ht, ho, rfl, hm⟩ := hx
  obtain ⟨steps', ht', ho', rfl, hm'⟩ := hk
  rw [← ht.replay_eq] at ho'
  refine ⟨_, ht.bind ht', ho.append ho', List.filterMap_append, fun r hr => ?_⟩
  rw [List.filterMap_append, List.mem_append]
  grind

theorem map {k : α → β} (h : Plans known fresh x s as rs) :
    Plans known fresh (x >>= fun a => Pure.pure (k a)) s as rs := by
  have hb := h.bind (k := fun a => Pure.pure (k a)) (Plans.pure (k (x.run s).1))
  rwa [List.append_nil, List.append_nil] at hb

theorem currentScope : Plans known fresh currentScope s [] [] :=
  ⟨[], .currentScope, .nil, rfl, fun _ h => nomatch h⟩

/-- The references may record the current frame. -/
theorem madeHere {k : Nat → β} (ha : Returns (k s.scopes.current) rs) (h : ∀ r ∈ rs, Knows s r.scope) :
    Plans known fresh (Logical.currentScope >>= fun scope => Pure.pure (k scope)) s [] rs :=
  currentScope.bind (k := fun scope => Pure.pure (k scope)) (made ha h)

theorem reference (v : Syntax.Var) (role : Role) :
    Plans known fresh (reference v role) s [] [((reference v role).run s).1] :=
  ⟨_, .reference v role, .refer (.inl rfl) .nil, rfl, fun _ h => .inr h⟩

theorem openFrame {k : Nat → Build β} {kind : FrameKind} (hk : kind ≠ .statement)
    (h : Plans known true (k s.scopes.nextFrame) { s with scopes := s.scopes.openFrame kind } as rs) :
    Plans known fresh (openFrame kind >>= k) s as rs := by
  obtain ⟨steps, ht, ho, ha, hm⟩ := h
  exact ⟨_, (Takes.openFrame kind).bind ht, .openFrame hk ho, ha, hm⟩

theorem inFrame {kind : FrameKind} (hk : kind ≠ .statement)
    (h : Plans known true x { s with scopes := s.scopes.openFrame kind } as rs) :
    Plans known fresh (inFrame kind x) s as rs := by
  obtain ⟨steps, ht, ho, ha, hm⟩ := h
  refine ⟨_, .inFrame kind ht, .openFrame hk (ho.append (.closeTo .nil)), ?_, fun r hr => ?_⟩
  · rw [List.cons_append, List.filterMap_cons_none rfl, List.filterMap_append, ha]
    exact List.append_nil as
  · rw [List.cons_append, List.filterMap_cons_none rfl, List.filterMap_append]
    exact (hm r hr).imp_right (List.mem_append_left _)

end Plans

namespace OnlyDeclares

variable {α β : Type} {as bs : List Alias} {x : Build α}

/-- A fresh frame stays so while locals are declared in it. -/
theorem plans (hx : OnlyDeclares x as) {known rs : List Reference} {s : BuildState} {k : α → Build β}
    (hk : Plans known true (k (x.run s).1) (x.run s).2 bs rs) : Plans known true (x >>= k) s (as ++ bs) rs := by
  obtain ⟨steps, ht, ho, rfl, hm⟩ := hk
  rw [← (hx s).replay_eq] at ho
  refine ⟨_, (hx s).bind ht, ho.declares, ?_, fun r hr => ?_⟩
  · rw [List.filterMap_append, filterMap_alias?_declare]
  · rw [List.filterMap_append]
    exact (hm r hr).imp_right (List.mem_append_right _)

theorem pure (a : α) : OnlyDeclares (Pure.pure a) [] := fun _ => .pure (.plain a)

theorem bind {k : α → Build β} (hx : OnlyDeclares x as) (hk : ∀ a, OnlyDeclares (k a) bs) :
    OnlyDeclares (x >>= k) (as ++ bs) := by
  intro s
  rw [List.map_append]
  exact (hx s).bind (hk _ _)

theorem map {k : α → β} (hx : OnlyDeclares x as) : OnlyDeclares (x >>= fun a => Pure.pure (k a)) as := by
  have h := hx.bind (k := fun a => Pure.pure (k a)) fun a => pure (k a)
  rwa [List.append_nil] at h

/-- A program that only declares is done with it. -/
theorem done (hx : OnlyDeclares x as) {known : List Reference} {s : BuildState} : Plans known true x s as [] := by
  refine ⟨_, hx s, ?_, filterMap_alias?_declare as, fun _ h => nomatch h⟩
  have h : Orderly true s (as.map .declare ++ []) := .declares .nil
  rwa [List.append_nil] at h

theorem grows (hx : OnlyDeclares x as) (s : BuildState) : s.scopes.nextFrame ≤ (x.run s).2.scopes.nextFrame := by
  rw [← (hx s).replay_eq]
  exact nextFrame_le_replay s _

theorem declareAlias (a : Alias) : OnlyDeclares (declareAlias a) [a] := fun _ => .declare a.name a.location

theorem declareOption : ∀ a : Option Alias, OnlyDeclares (declareOption a) a.toList
  | none => pure _
  | some a => (declareAlias a).map

theorem declareOr (a : Option Alias) (name : Identifier) (location : Location) :
    OnlyDeclares (declareOr a name location) [a.getD ⟨name, location⟩] := by
  cases a with
  | none => exact declareAlias ⟨name, location⟩
  | some a => exact declareAlias a

theorem declareKeys : ∀ (ordinal : Nat) (keys : List Syntax.GroupKey),
    OnlyDeclares (declareKeys ordinal keys) (Syntax.keyAliases ordinal keys)
  | _, [] => pure _
  | ordinal, key :: keys =>
    (declareOr key.asAlias _ _).bind fun _ => (declareKeys (ordinal + 1) keys).map

end OnlyDeclares

/-! ## Problems of planning -/

/-- The problem is that a frame already has the name. -/
def IsRepetition (p : Problem) : Prop := ∃ name location, p = ⟨location, .previouslyDefined name⟩

/-- A run reports repetitions or nothing. -/
theorem Run.isRepetition {s t : BuildState} {as : List Alias} (h : Run s as t)
    (hs : ∀ p ∈ s.problems, IsRepetition p) : ∀ p ∈ t.problems, IsRepetition p := by
  induction h with
  | none => exact hs
  | openFrame _ _ ih => exact ih
  | closeTo _ _ ih => exact ih
  | @declare _ _ _ a _ _ hd ih =>
    intro p hp
    rw [declare_problems hd] at hp
    rcases List.mem_append.1 hp with hp | hp
    · exact ih p hp
    · split at hp
      · exact ⟨a.name, a.location, List.mem_singleton.1 hp⟩
      · cases hp

end NestedQuery.Logical
