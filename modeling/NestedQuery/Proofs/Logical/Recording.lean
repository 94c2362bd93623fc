/-
What planning records. `Stands` ties what is written at a place of a statement to what stands at the same
place of the plan: a variable to a reference from whose frame the environment of the place is seen, and a
block to the source and the projection made of it. `Planned` is the contract of every planning step: frames
and locals are only added, the locals added are those declared in the part of the plan that the step makes,
and that part stands for what was planned. Contracts of successive steps compose.
-/
import NestedQuery.Logical.Mutation
import NestedQuery.Proofs.Plan.Declarations
import NestedQuery.Proofs.Scope.Sight
import NestedQuery.Proofs.Syntax.Outline
import Mathlib.Data.List.Forall2

namespace NestedQuery.Logical

open Lexical (Env)
open Plan (Item Relation)
open Scope (Recorder Sees)
open Syntax (Mark)

/-! ## Running a planning step -/

section Run

variable {α β : Type} {s s' : BuildState}

theorem run_bind {x : Build α} {k : α → Build β} {b : β} (h : (x >>= k).run s = (b, s')) :
    ∃ a t, x.run s = (a, t) ∧ (k a).run t = (b, s') := ⟨_, _, rfl, h⟩

theorem run_pure {a b : α} (h : (pure a : Build α).run s = (b, s')) : a = b ∧ s = s' := Prod.mk.inj h

theorem run_map {x : Build α} {k : α → β} {b : β} (h : (x >>= fun a => pure (k a)).run s = (b, s')) :
    ∃ a, x.run s = (a, s') ∧ b = k a := by
  obtain ⟨a, t, hx, h⟩ := run_bind h
  obtain ⟨rfl, rfl⟩ := run_pure h
  exact ⟨a, hx, rfl⟩

theorem reference_run {v : Syntax.Var} {role : Role} {x : Reference} (h : (reference v role).run s = (x, s')) :
    x = ⟨v.name, v.qualifier, role, s.scopes.current, v.location⟩ ∧ s = s' := by
  obtain ⟨rfl, rfl⟩ := Prod.mk.inj h
  exact ⟨rfl, rfl⟩

theorem openFrame_run {kind : Scope.FrameKind} {i : Nat} (hs : s.scopes.Consistent)
    (h : (openFrame kind).run s = (i, s')) : i = s.scopes.nextFrame ∧ s.scopes.Opened s'.scopes kind [] := by
  obtain ⟨rfl, rfl⟩ := Prod.mk.inj h
  exact ⟨rfl, Recorder.opened_openFrame hs kind⟩

theorem inFrame_run {kind : Scope.FrameKind} {body : Build α} {a : α} (hs : s.scopes.Consistent)
    (h : (inFrame kind body).run s = (a, s')) :
    ∃ t u, s.scopes.Opened t.scopes kind [] ∧ body.run t = (a, u) ∧
      s'.scopes = u.scopes.closeTo s.scopes.depth := by
  obtain ⟨rfl, rfl⟩ := Prod.mk.inj h
  exact ⟨⟨s.scopes.openFrame kind, s.problems⟩, _, Recorder.opened_openFrame hs kind, rfl, rfl⟩

theorem declare_run {name : Identifier} {location : Location} {d : Declaration}
    (h : (declare name location).run s = (d, s')) :
    d = ⟨name, s.scopes.nextLocal, location⟩ ∧ s'.scopes = s.scopes.declare name := by
  obtain ⟨_, _, hg, h⟩ := run_bind h
  cases hg
  dsimp only at h
  -- a repeated name is reported, which leaves the frames and locals as they are
  split at h
  · obtain ⟨_, t, hr, h⟩ := run_bind h
    cases hr
    obtain ⟨rfl, rfl⟩ := Prod.mk.inj h
    exact ⟨rfl, rfl⟩
  · obtain ⟨rfl, rfl⟩ := Prod.mk.inj h
    exact ⟨rfl, rfl⟩

variable {r : Recorder} {kind : Scope.FrameKind} {group : List Declaration}

theorem declare_opened {name : Identifier} {location : Location} {d : Declaration}
    (h : (declare name location).run s = (d, s')) (ho : r.Opened s.scopes kind group) :
    r.Opened s'.scopes kind (group ++ [d]) ∧ d.name = name := by
  obtain ⟨rfl, hs⟩ := declare_run h
  rw [hs]
  exact ⟨ho.declare name location, rfl⟩

theorem declareOption_opened {a : Option Syntax.Alias} {d : Option Declaration}
    (h : (declareOption a).run s = (d, s')) (ho : r.Opened s.scopes kind group) :
    r.Opened s'.scopes kind (group ++ d.toList) ∧ d.map (·.name) = a.map (·.name) := by
  cases a with
  | none =>
    obtain ⟨rfl, rfl⟩ := run_pure h
    exact ⟨by simpa using ho, rfl⟩
  | some a =>
    obtain ⟨d', t, hd, h⟩ := run_bind h
    obtain ⟨rfl, rfl⟩ := run_pure h
    obtain ⟨ho', hn⟩ := declare_opened hd ho
    exact ⟨ho', congrArg some hn⟩

theorem declareOr_opened {a : Option Syntax.Alias} {name : Identifier} {location : Location} {d : Declaration}
    (h : (declareOr a name location).run s = (d, s')) (ho : r.Opened s.scopes kind group) :
    r.Opened s'.scopes kind (group ++ [d]) ∧ d.name = Syntax.nameOr a name := by
  cases a with
  | none => exact declare_opened h ho
  | some a => exact declare_opened h ho

theorem declareKeys_opened : ∀ {keys : List Syntax.GroupKey} {ordinal : Nat} {s s' : BuildState}
    {group ds : List Declaration}, (declareKeys ordinal keys).run s = (ds, s') → r.Opened s.scopes kind group →
    r.Opened s'.scopes kind (group ++ ds) ∧ ds.map (·.name) = Syntax.keyNames ordinal keys
  | [], _, _, _, _, _, h, ho => by
    obtain ⟨rfl, rfl⟩ := run_pure h
    exact ⟨by simpa using ho, rfl⟩
  | key :: keys, ordinal, _, _, group, _, h, ho => by
    obtain ⟨d, t, hd, h⟩ := run_bind h
    obtain ⟨ds, u, hds, h⟩ := run_bind h
    obtain ⟨rfl, rfl⟩ := run_pure h
    obtain ⟨ho, hn⟩ := declareOr_opened hd ho
    obtain ⟨ho, hns⟩ := declareKeys_opened hds ho
    refine ⟨by simpa using ho, ?_⟩
    rw [List.map_cons, hn, hns]
    rfl

end Run

/-! ## What stands for what -/

/-- The group is the nearest that is seen from a frame. -/
def Seen (r : Recorder) (scope : Nat) (group : List Declaration) : Prop :=
  ∃ rest outer, Sees r scope ⟨group :: rest, outer⟩

/-- The declaration is the first of the nearest group that is seen from a frame. -/
def Leads (r : Recorder) (scope : Nat) (d : Declaration) : Prop := ∃ later, Seen r scope (d :: later)

section Seen

variable {r r' : Recorder} {scope : Nat}

theorem Seen.mono {group : List Declaration} (hx : r.Extends r') (h : Seen r scope group) : Seen r' scope group := by
  obtain ⟨rest, outer, h⟩ := h
  exact ⟨rest, outer, h.mono hx⟩

theorem Leads.seen {d : Declaration} (h : Leads r scope d) : ∃ group, Seen r scope group ∧ d ∈ group := by
  obtain ⟨later, h⟩ := h
  exact ⟨d :: later, h, List.mem_cons_self⟩

theorem Leads.mono {d : Declaration} (hx : r.Extends r') (h : Leads r scope d) : Leads r' scope d := by
  obtain ⟨later, h⟩ := h
  exact ⟨later, h.mono hx⟩

end Seen

/-- The AS locals of a FROM clause: those of its items in order, with their names, each of them the first in
the frame of its item. -/
structure ItemsPlanned (r : Recorder) (names : List Identifier) (source : Relation Reference)
    (aliases : List SourceAlias) : Prop where
  decls : aliases.map (·.decl) = source.itemDecls
  names : source.itemDecls.map (·.name) = names
  leads : ∀ a ∈ aliases, Leads r a.scope a.decl

theorem ItemsPlanned.mono {r r' : Recorder} {names : List Identifier} {source : Relation Reference}
    {aliases : List SourceAlias} (hx : r.Extends r') (h : ItemsPlanned r names source aliases) :
    ItemsPlanned r' names source aliases :=
  ⟨h.decls, h.names, fun a ha => (h.leads a ha).mono hx⟩

/-- What `SELECT *` becomes: without a grouping a spread of every FROM item, looked up from the frame of the
item; under a grouping one item for each of its locals, looked up from the frame of the group. -/
structure StarPlanned (r : Recorder) (b : Syntax.Select) (source : Relation Reference)
    (projection : Plan.Projection Reference) : Prop where
  items : b.projection = .star → b.groupBy = none → ∃ aliases : List SourceAlias,
    ItemsPlanned r (Syntax.starNames b.source none) source aliases ∧
    projection = .struct (aliases.map fun a => .all (.var (a.decl.reference a.scope)))
  keys : ∀ g, b.projection = .star → b.groupBy = some g →
    source.groupDecls.map (·.name) = g.names ∧
    ∃ scope, Seen r scope source.groupDecls ∧
      projection = .struct (source.groupDecls.map fun d => .expr (.var (d.reference scope)) d.name.text)

/-- The value is the row after any number of edits. -/
inductive RowImage {V : Type} (row : Plan.Expr V) : Plan.Expr V → Prop
  | row : RowImage row row
  | set {e : Plan.Expr V} {keys : List (Plan.Expr V)} {value : Plan.Expr V} : RowImage row e →
      RowImage row (.call "set_path" [e, .collection .list keys, value])
  | remove {e : Plan.Expr V} {keys : List (Plan.Expr V)} : RowImage row e →
      RowImage row (.call "remove_path" [e, .collection .list keys])

/-- What stands at a place of the plan stands for what is written there. -/
inductive Stands (r : Recorder) : Mark → Item Reference → Prop
  | var {v : Syntax.Var} {role : Role} {scope : Nat} {env : Env} : Sees r scope env →
      Stands r (.var v role) (.var env ⟨v.name, v.qualifier, role, scope, v.location⟩)
  | generated {d : Declaration} {group : List Declaration} {scope : Nat} {env : Env} : Seen r scope group → d ∈ group →
      Stands r (.generated d.name) (.var env (d.reference scope))
  | target {v : Syntax.Var} {scope : Nat} :
      Stands r (.target v) (.target ⟨v.name, v.qualifier, .dmlTarget, scope, v.location⟩)
  | select {b : Syntax.Select} {source : Relation Reference} {projection : Plan.Projection Reference} :
      StarPlanned r b source projection → Stands r (.select b) (.block source projection)
  | edited {s : Syntax.MutationSource} {source : Relation Reference} {d : Declaration} {scope : Nat}
      {value : Plan.Expr Reference} : source.itemDecls = [d] → d.name = s.rowVar.name → Leads r scope d →
      RowImage (.var (d.reference scope)) value → Stands r (.rows .edited s) (.block source (.value value))
  | deleted {s : Syntax.MutationSource} {source : Relation Reference} {d : Declaration} {scope : Nat} :
      source.itemDecls = [d] → d.name = s.rowVar.name → Leads r scope d →
      Stands r (.rows .deleted s) (.block source (.value (.var (d.reference scope))))
  | inserting {s : Syntax.MutationSource} {rows : Relation Reference} {values : Plan.Expr Reference}
      {d : Declaration} {scope : Nat} : Leads r scope d →
      Stands r (.rows .inserting s) (.block (.of (.join .cross rows (.of (.scan values d none none)) none))
        (.value (.var (d.reference scope))))
  | insertingValue {s : Syntax.MutationSource} {source : Relation Reference}
      {projection : Plan.Projection Reference} :
      Stands r (.rows .insertingValue s) (.block source projection)

theorem Stands.mono {r r' : Recorder} (hx : r.Extends r') {m : Mark} {i : Item Reference} (h : Stands r m i) :
    Stands r' m i := by
  cases h with
  | var h => exact .var (h.mono hx)
  | generated h hd => exact .generated (h.mono hx) hd
  | target => exact .target
  | select h =>
    refine .select ⟨fun hp hg => ?_, fun g hp hg => ?_⟩
    · obtain ⟨aliases, hi, he⟩ := h.items hp hg
      exact ⟨aliases, hi.mono hx, he⟩
    · obtain ⟨hn, scope, hs, he⟩ := h.keys g hp hg
      exact ⟨hn, scope, hs.mono hx, he⟩
  | edited hd hn hl hv => exact .edited hd hn (hl.mono hx) hv
  | deleted hd hn hl => exact .deleted hd hn (hl.mono hx)
  | inserting hl => exact .inserting (hl.mono hx)
  | insertingValue => exact .insertingValue

/-! ## The contract of a planning step -/

/-- Planning stands at a place where the environment is seen. -/
structure At (s : BuildState) (env : Env) : Prop where
  consistent : s.scopes.Consistent
  sees : Sees s.scopes s.scopes.current env

theorem at_start : At .start .top := ⟨Recorder.consistent_start, Sees.start⟩

/-- A step from `s` to `s'` has planned what `marks` lists and leaves off where `env` is seen; `items` and `decls`
are the outline and the declarations of the part of the plan that it made. -/
structure Planned (env : Env) (s s' : BuildState) (marks : List Mark) (items : List (Item Reference))
    (decls : List Declaration) : Prop where
  frames : s.scopes.tree.frames <+: s'.scopes.tree.frames
  stack : s.scopes.stack <:+ s'.scopes.stack
  locals : s'.scopes.locals = s.scopes.locals ++ decls.map Declaration.toLocal
  arrives : At s' env
  stands : List.Forall₂ (Stands s'.scopes) marks items

namespace Planned

variable {env env' : Env} {s t s' : BuildState} {marks marks' : List Mark} {items items' : List (Item Reference)}
  {decls decls' : List Declaration}

theorem grows (h : Planned env s s' marks items decls) : s.scopes.Extends s'.scopes :=
  ⟨h.frames, h.locals ▸ List.prefix_append _ _⟩

theorem nil (h : At s env) : Planned env s s [] [] [] :=
  ⟨List.prefix_rfl, List.suffix_rfl, (List.append_nil _).symm, h, .nil⟩

theorem append (h : Planned env s t marks items decls) (h' : Planned env' t s' marks' items' decls') :
    Planned env' s s' (marks ++ marks') (items ++ items') (decls ++ decls') where
  frames := h.frames.trans h'.frames
  stack := h.stack.trans h'.stack
  locals := by rw [h'.locals, h.locals, List.map_append, List.append_assoc]
  arrives := h'.arrives
  stands := List.rel_append (h.stands.imp fun _ _ hs => hs.mono h'.grows) h'.stands

theorem andThen (h : Planned env s t marks items decls) (k : At t env → Planned env' t s' marks' items' decls') :
    Planned env' s s' (marks ++ marks') (items ++ items') (decls ++ decls') := h.append (k h.arrives)

theorem cons {m : Mark} {i : Item Reference} (hs : Stands s'.scopes m i) (h : Planned env s s' marks items decls) :
    Planned env s s' (m :: marks) (i :: items) decls :=
  ⟨h.frames, h.stack, h.locals, h.arrives, .cons hs h.stands⟩

/-- Opening a frame and declaring a group in it. -/
theorem opened {kind : Scope.FrameKind} {group : List Declaration} (h : At s env)
    (ho : s.scopes.Opened s'.scopes kind group) (hk : ∀ i p l, (Scope.Frame.mk i p kind l).isBoundary = false) :
    Planned (env.extend [group]) s s' [] [] group where
  frames := ho.grows.frames
  stack := ho.stack ▸ List.suffix_cons _ _
  locals := ho.locals
  arrives := ⟨ho.consistent, h.sees.opened_group ho hk⟩
  stands := .nil

/-- Opening the frame of a block. -/
theorem entered (h : At s env) (ho : s.scopes.Opened s'.scopes .query []) : Planned env.enter s s' [] [] [] where
  frames := ho.grows.frames
  stack := ho.stack ▸ List.suffix_cons _ _
  locals := ho.locals
  arrives := ⟨ho.consistent, h.sees.opened_block ho⟩
  stands := .nil

/-- Closing the frames that were opened since leads back to where the step started. -/
theorem closed (h : At s env) (hp : Planned env' s t marks items decls)
    (hc : s'.scopes = t.scopes.closeTo s.scopes.depth) : Planned env s s' marks items decls := by
  -- closing takes frames off the stack; in the tree they stay, with their locals
  have hx : t.scopes.Extends s'.scopes := hc ▸ .closeTo t.scopes s.scopes.depth
  have hs : s'.scopes.stack = s.scopes.stack := by
    rw [hc]; exact Recorder.closeTo_stack h.consistent.stack_ne hp.stack
  have hcur : s'.scopes.current = s.scopes.current := by unfold Recorder.current; rw [hs]
  refine ⟨hp.frames.trans hx.frames, hs ▸ List.suffix_rfl, ?_, ⟨?_, ?_⟩, ?_⟩
  · rw [hc]; exact hp.locals
  · rw [hc]; exact hp.arrives.consistent.closeTo _
  · rw [hcur]; exact h.sees.mono (hp.grows.trans hx)
  · exact hp.stands.imp fun _ _ hm => hm.mono hx

end Planned

end NestedQuery.Logical
