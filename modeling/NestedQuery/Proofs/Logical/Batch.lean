/-
Planning a batch of mutations. The rows of the source are planned once and stand in every mutation made of
them, and edits are planned before the mutation that applies them. So the parts of a batch are followed one
by one: what a part stands for, and that its locals are recorded, stays so while planning goes on.
-/
import NestedQuery.Proofs.Logical.Query

namespace NestedQuery.Logical

open Lexical (Env)
open Plan (Item Relation)
open Scope (Recorder Sees)
open Syntax (Mark)

/-! ## Parts of a batch -/

/-- A part of a plan, with the outline `items` and the declarations `decls`, stands for what `marks` lists and its
locals are recorded. -/
structure Part (r : Recorder) (marks : List Mark) (items : List (Item Reference)) (decls : List Declaration) :
    Prop where
  stands : List.Forall₂ (Stands r) marks items
  has : ∀ d ∈ decls, r.Has d

namespace Part

variable {r r' : Recorder} {marks marks' : List Mark} {items items' : List (Item Reference)}
  {decls decls' : List Declaration}

theorem nil : Part r [] [] [] := ⟨.nil, fun _ h => nomatch h⟩

theorem cons {m : Mark} {i : Item Reference} (hs : Stands r m i) (h : Part r marks items decls) :
    Part r (m :: marks) (i :: items) decls := ⟨.cons hs h.stands, h.has⟩

theorem generated {env : Env} {d : Declaration} {name : Identifier} {scope : Nat} (h : Leads r scope d)
    (hn : d.name = name) : Part r [.generated name] [.var env (d.reference scope)] [] := by
  obtain ⟨group, hg, hd⟩ := h.seen
  subst hn
  exact .cons (.generated hg hd) .nil

theorem append (h : Part r marks items decls) (h' : Part r marks' items' decls') :
    Part r (marks ++ marks') (items ++ items') (decls ++ decls') :=
  ⟨List.rel_append h.stands h'.stands, fun d hd => (List.mem_append.1 hd).elim (h.has d) (h'.has d)⟩

theorem mono (hx : r.Extends r') (h : Part r marks items decls) : Part r' marks items decls :=
  ⟨h.stands.imp fun _ _ hs => hs.mono hx, fun d hd => hx.has (h.has d hd)⟩

end Part

theorem Planned.part {env : Env} {s s' : BuildState} {marks : List Mark} {items : List (Item Reference)}
    {decls : List Declaration} (h : Planned env s s' marks items decls) : Part s'.scopes marks items decls where
  stands := h.stands
  has _ hd := h.arrives.consistent.has_of_mem (h.locals ▸ List.mem_append_right _ (List.mem_map_of_mem hd))

/-- A step from `s` to `s'` has made mutations that stand for what `marks` lists, and `env` is seen where it leaves
off. -/
structure Batched (env : Env) (s s' : BuildState) (marks : List Mark) (mutations : List (Plan.Mutation Reference)) :
    Prop where
  grows : s.scopes.Extends s'.scopes
  arrives : At s' env
  part : Part s'.scopes marks (mutations.flatMap Plan.Mutation.outline) (mutations.flatMap fun m => m.rows.decls)

theorem Batched.append {env : Env} {s t s' : BuildState} {marks marks' : List Mark}
    {mutations mutations' : List (Plan.Mutation Reference)} (h : Batched env s t marks mutations)
    (h' : Batched env t s' marks' mutations') : Batched env s s' (marks ++ marks') (mutations ++ mutations') where
  grows := h.grows.trans h'.grows
  arrives := h'.arrives
  part := by
    rw [List.flatMap_append, List.flatMap_append]
    exact (h.part.mono h'.grows).append h'.part

/-- A mutation stands for its target and for what its rows stand for. -/
theorem Batched.mutation {env : Env} {s t s' : BuildState} {marks : List Mark} {action : Plan.Action}
    {target : Syntax.Var} {rows : Plan.Expr Reference} {m : Plan.Mutation Reference} (hx : s.scopes.Extends t.scopes)
    (ha : At t env) (hp : Part t.scopes marks (rows.outline .top) rows.decls)
    (h : (mutation action target rows).run t = (m, s')) : Batched env s s' (.target target :: marks) [m] := by
  obtain ⟨x, hr, rfl⟩ := run_map h
  obtain ⟨rfl, rfl⟩ := reference_run hr
  refine ⟨hx, ha, ?_⟩
  rw [List.flatMap_singleton, List.flatMap_singleton]
  exact hp.cons .target

/-! ## Rows of the source -/

/-- The rows of the source of a batch are planned. -/
structure SourcePlanned (r : Recorder) (source : Syntax.MutationSource) (rows : MutationRows) : Prop where
  target : rows.target = source.target
  decls : rows.rows.itemDecls = [rows.rowDecl]
  name : rows.rowDecl.name = source.rowVar.name
  leads : Leads r rows.scope rows.rowDecl
  part : Part r source.outline (rows.rows.outline .top) rows.rows.decls

theorem SourcePlanned.mono {r r' : Recorder} {source : Syntax.MutationSource} {rows : MutationRows}
    (hx : r.Extends r') (h : SourcePlanned r source rows) : SourcePlanned r' source rows :=
  ⟨h.target, h.decls, h.name, h.leads.mono hx, h.part.mono hx⟩

/-- What a batch goes through, and the environment in which its operations stand: under a source the rows of the
source, and nothing otherwise. -/
inductive BatchRows (r : Recorder) : Option Syntax.MutationSource → Option MutationRows → Env → Prop
  | none : BatchRows r none none .top
  | some {source : Syntax.MutationSource} {rows : MutationRows} : SourcePlanned r source rows →
      BatchRows r (some source) (some rows) (Env.top.extend rows.rows.groups)

theorem BatchRows.mono {r r' : Recorder} {source : Option Syntax.MutationSource} {rows : Option MutationRows}
    {env : Env} (hx : r.Extends r') (h : BatchRows r source rows env) : BatchRows r' source rows env := by
  cases h with
  | none => exact .none
  | some h => exact .some (h.mono hx)

theorem rowVar_name (source : Syntax.MutationSource) :
    source.rowVar.name = Syntax.nameOr source.asAlias source.target.name := by
  unfold Syntax.MutationSource.rowVar
  cases source.asAlias <;> rfl

theorem planRows_planned {source : Syntax.MutationSource} {rows : MutationRows} {s s' : BuildState}
    (h : (planRows source).run s = (rows, s')) (ha : At s .top) :
    s.scopes.Extends s'.scopes ∧ At s' (Env.top.extend rows.rows.groups) ∧ SourcePlanned s'.scopes source rows := by
  obtain ⟨target, _, h0, h⟩ := run_bind h
  obtain ⟨scope, _, h1, h⟩ := run_bind h
  obtain ⟨rowDecl, _, h2, h⟩ := run_bind h
  obtain ⟨atDecl, _, h3, h⟩ := run_bind h
  obtain ⟨byDecl, t, h4, h⟩ := run_bind h
  obtain ⟨condition, h5, rfl⟩ := run_map h
  obtain ⟨rfl, rfl⟩ := reference_run h0
  have hp : Planned .top s s [.var source.target .fromSource] [.var .top _] [] := .cons (.var ha.sees) (.nil ha)
  have hr : RowsPlanned .top s t _ _ (.of (.scan (.var _) rowDecl atDecl byDecl)) _ :=
    .item (fun _ _ _ => rfl) hp h1 h2 h3 h4 rfl rfl rfl
  have hr := hr.add (.filter condition) (planOption_planned h5 hr.planned.arrives)
  refine ⟨hr.planned.grows, hr.planned.arrives, rfl, hr.items.decls.symm, ?_,
    hr.items.leads _ (List.mem_singleton_self _), hr.planned.part⟩
  rw [rowVar_name]
  simpa [← hr.items.decls] using hr.items.names

/-! ## Edits -/

namespace RowEdit

def outline (env : Env) (edit : RowEdit) : List (Item Reference) :=
  Plan.outlineList env edit.keys ++ Plan.outlineOption env edit.value

def decls (edit : RowEdit) : List Declaration := Plan.declsList edit.keys ++ Plan.declsOption edit.value

/-- An edit of the row adds its own expressions to those of the row. -/
theorem outline_apply (env : Env) (edit : RowEdit) (row : Plan.Expr Reference) :
    (edit.apply row).outline env = row.outline env ++ edit.outline env ∧
      (edit.apply row).decls = row.decls ++ edit.decls := by
  obtain ⟨root, keys, _ | value⟩ := edit
  · exact ⟨rfl, rfl⟩
  · have h : ∀ {α : Type} (a b c : List α), a ++ (b ++ (c ++ [])) = a ++ (b ++ c) := by simp
    exact ⟨h _ _ _, h _ _ _⟩

theorem outline_foldl (env : Env) : ∀ (edits : List RowEdit) (row : Plan.Expr Reference),
    (edits.foldl (fun row edit => edit.apply row) row).outline env = row.outline env ++ edits.flatMap (outline env) ∧
      (edits.foldl (fun row edit => edit.apply row) row).decls = row.decls ++ edits.flatMap decls
  | [], row => ⟨(List.append_nil _).symm, (List.append_nil _).symm⟩
  | edit :: edits, row => by
    obtain ⟨ho, hd⟩ := outline_foldl env edits (edit.apply row)
    obtain ⟨ho', hd'⟩ := outline_apply env edit row
    simp only [List.foldl_cons, List.flatMap_cons, ho, ho', hd, hd', List.append_assoc, and_self]

theorem rowImage_foldl {row : Plan.Expr Reference} : ∀ (edits : List RowEdit) {value : Plan.Expr Reference},
    RowImage row value → RowImage row (edits.foldl (fun row edit => edit.apply row) value)
  | [], _, h => h
  | ⟨_, _, none⟩ :: edits, _, h => rowImage_foldl edits (.remove h)
  | ⟨_, _, some _⟩ :: edits, _, h => rowImage_foldl edits (.set h)

end RowEdit

/-- The planned edits are those that are pending. -/
structure EditsPlanned (r : Recorder) (env : Env) (pending : List Syntax.Edit) (edits : List RowEdit) : Prop where
  roots : edits.map (·.root) = pending.map (·.path.root)
  part : Part r (pending.flatMap Syntax.Edit.outline) (edits.flatMap (RowEdit.outline env))
    (edits.flatMap RowEdit.decls)

namespace EditsPlanned

variable {r r' : Recorder} {env : Env} {pending pending' : List Syntax.Edit} {edits edits' : List RowEdit}

theorem nil : EditsPlanned r env [] [] := ⟨rfl, .nil⟩

theorem append (h : EditsPlanned r env pending edits) (h' : EditsPlanned r env pending' edits') :
    EditsPlanned r env (pending ++ pending') (edits ++ edits') := by
  refine ⟨by rw [List.map_append, List.map_append, h.roots, h'.roots], ?_⟩
  simpa only [List.flatMap_append] using h.part.append h'.part

theorem mono (hx : r.Extends r') (h : EditsPlanned r env pending edits) : EditsPlanned r' env pending edits :=
  ⟨h.roots, h.part.mono hx⟩

theorem isEmpty (h : EditsPlanned r env pending edits) : edits.isEmpty = pending.isEmpty := by
  rw [← List.isEmpty_map (f := RowEdit.root), h.roots, List.isEmpty_map]

end EditsPlanned

theorem planRowSteps_planned : ∀ {steps : List Syntax.RowStep} {keys : List (Plan.Expr Reference)} {s s' : BuildState}
    {env : Env}, (planRowSteps steps).run s = (keys, s') → At s env →
    Planned env s s' (Syntax.outlineRowSteps steps) (Plan.outlineList env keys) (Plan.declsList keys)
  | [], _, _, _, _, h, ha => by
    obtain ⟨rfl, rfl⟩ := run_pure h
    exact .nil ha
  | .field _ :: steps, _, _, _, _, h, ha => by
    obtain ⟨keys, h1, rfl⟩ := run_map h
    exact (planRowSteps_planned h1 ha :)
  | .index key :: steps, _, _, _, _, h, ha => by
    obtain ⟨key, t, h1, h⟩ := run_bind h
    obtain ⟨keys, h2, rfl⟩ := run_map h
    exact (planExpr_planned h1 ha).andThen (planRowSteps_planned h2)

/-- The key that the root of a path makes is a constant. -/
theorem rootKeys_append (rows : Option MutationRows) (root : Syntax.Var) (keys : List (Plan.Expr Reference))
    (env : Env) :
    Plan.outlineList env (rootKeys rows root ++ keys) = Plan.outlineList env keys ∧
      Plan.declsList (rootKeys rows root ++ keys) = Plan.declsList keys := by
  unfold rootKeys
  split
  · split <;> exact ⟨rfl, rfl⟩
  · exact ⟨rfl, rfl⟩

theorem planEdit_planned {rows : Option MutationRows} {path : Syntax.RowPath} {value : Option Syntax.Expr}
    {edit : RowEdit} {s s' : BuildState} {env : Env} (h : (planEdit rows path value).run s = (edit, s'))
    (ha : At s env) :
    s.scopes.Extends s'.scopes ∧ At s' env ∧ EditsPlanned s'.scopes env [⟨path, value⟩] [edit] := by
  obtain ⟨keys, t, h1, h⟩ := run_bind h
  obtain ⟨value, h2, rfl⟩ := run_map h
  have hp := (planRowSteps_planned h1 ha).andThen (planOption_planned h2)
  obtain ⟨ho, hd⟩ := rootKeys_append rows path.root keys env
  refine ⟨hp.grows, hp.arrives, rfl, ?_⟩
  simp only [List.flatMap_singleton, RowEdit.outline, RowEdit.decls, ho, hd]
  exact hp.part

theorem planAssignments_planned {rows : Option MutationRows} : ∀ {assignments : List Syntax.Assignment}
    {edits : List RowEdit} {s s' : BuildState} {env : Env},
    (planAssignments rows assignments).run s = (edits, s') → At s env →
    s.scopes.Extends s'.scopes ∧ At s' env ∧
      EditsPlanned s'.scopes env (assignments.map fun a => ⟨a.target, some a.value⟩) edits
  | [], _, _, _, _, h, ha => by
    obtain ⟨rfl, rfl⟩ := run_pure h
    exact ⟨.refl _, ha, .nil⟩
  | ⟨target, value⟩ :: rest, _, _, _, _, h, ha => by
    obtain ⟨edit, t, h1, h⟩ := run_bind h
    obtain ⟨edits, h2, rfl⟩ := run_map h
    obtain ⟨hx, ha, he⟩ := planEdit_planned h1 ha
    obtain ⟨hx', ha, hes⟩ := planAssignments_planned h2 ha
    exact ⟨hx.trans hx', ha, (he.mono hx').append hes⟩

/-! ## Mutations -/

section Mutations

variable {env : Env} {s t s' : BuildState} {source : Option Syntax.MutationSource} {rows : Option MutationRows}
  {target : Syntax.Var} {m : Plan.Mutation Reference}

/-- The rows of a mutation under a source are a block over the rows of the source. -/
theorem SourcePlanned.selectValue {r : Recorder} {source : Syntax.MutationSource} {rows : MutationRows}
    {use : Syntax.RowUse} {value : Plan.Expr Reference} {marks : List Mark} (h : SourcePlanned r source rows)
    (hs : Stands r (.rows use source) (.block rows.rows (.value value)))
    (hv : Part r marks (value.outline (Env.top.extend rows.rows.groups)) value.decls) :
    Part r (.rows use source :: (source.outline ++ marks)) ((rows.selectValue value).outline .top)
      (rows.selectValue value).decls := .cons hs (h.part.append hv)

theorem SourcePlanned.row {r : Recorder} {source : Syntax.MutationSource} {rows : MutationRows} (env : Env)
    (h : SourcePlanned r source rows) :
    Part r [.generated source.rowVar.name] (rows.row.outline env) rows.row.decls := .generated h.leads h.name

/-- The inserted rows are declared in a frame of their own, under the rows of the source. -/
theorem insertPerRow_planned {source : Syntax.MutationSource} {rows : MutationRows} {values : Syntax.Expr}
    {x : Plan.Expr Reference} (h : (insertPerRow rows values).run s = (x, t)) (hb : SourcePlanned s.scopes source rows)
    (ha : At s (Env.top.extend rows.rows.groups)) :
    s.scopes.Extends t.scopes ∧ At t (Env.top.extend rows.rows.groups) ∧
      Part t.scopes (.rows .inserting source ::
        (source.outline ++ values.outline .expression ++ [.generated (values.impliedAlias 2)]))
        (x.outline .top) x.decls := by
  obtain ⟨value, u, h1, h⟩ := run_bind h
  have hp1 := planExpr_planned h1 ha
  obtain ⟨_, _, ho, h, hc⟩ := inFrame_run hp1.arrives.consistent h
  obtain ⟨decl, v, h2, h⟩ := run_bind h
  obtain ⟨rfl, rfl⟩ := Prod.mk.inj h
  obtain ⟨ho, hn⟩ := declare_opened h2 ho
  have hp2 := Planned.opened hp1.arrives ho (fun _ _ _ => rfl)
  -- the frame of the inserted rows is closed again, but stays in the tree for the reference to be looked up from
  have hx : v.scopes.Extends t.scopes := hc ▸ .closeTo v.scopes u.scopes.depth
  have hl := Leads.mono hx ⟨[], _, _, hp2.arrives.sees⟩
  have hp := hp1.append (hp2.closed hp1.arrives hc)
  have hv := (hb.part.mono hp.grows).append hp.part
  have hg : Part t.scopes [.generated (values.impliedAlias 2)]
      [.var ((Env.top.extend rows.rows.groups).extend [[decl]]) (decl.reference v.scopes.current)] [] :=
    .generated hl hn
  refine ⟨hp.grows, hp.arrives, .cons (.inserting hl) ?_⟩
  rw [List.append_nil, List.append_nil] at hv
  -- the join has no predicate, which is what the empty list stands for
  rw [← List.append_nil (rows.rows.outline .top ++ value.outline _), ← List.append_nil (rows.rows.decls ++ _)] at hv
  exact hv.append hg

theorem Batched.nil (h : At s env) : Batched env s s [] [] := ⟨.refl _, h, .nil⟩

/-- Without a source there are no rows to edit. -/
theorem updateEach_planned : ∀ {edits : List RowEdit} {ms : List (Plan.Mutation Reference)} {s s' : BuildState},
    (updateEach edits).run s = (ms, s') → At s env → Batched env s s' ((edits.map (·.root)).map .target) ms
  | [], _, _, _, h, ha => by
    obtain ⟨rfl, rfl⟩ := run_pure h
    exact .nil ha
  | edit :: edits, _, _, _, h, ha => by
    obtain ⟨m, t, h1, h⟩ := run_bind h
    obtain ⟨ms, h2, rfl⟩ := run_map h
    have hm := Batched.mutation (.refl _) ha .nil h1
    exact hm.append (updateEach_planned h2 hm.arrives)

/-- Pending edits make one update of the rows of the source, or one each without a source. -/
theorem flush_planned {pending : List Syntax.Edit} {edits : List RowEdit} {ms : List (Plan.Mutation Reference)}
    (h : (flush rows edits).run s = (ms, s')) (hb : BatchRows s.scopes source rows env)
    (he : EditsPlanned s.scopes env pending edits) (ha : At s env) :
    Batched env s s' ((Syntax.updates source pending).flatMap (Syntax.Change.outline source)) ms := by
  cases hb with
  | none =>
    have hf : flush none edits = updateEach edits := by cases edits <;> rfl
    have hu : (Syntax.updates none pending).flatMap (Syntax.Change.outline none) =
        (edits.map (·.root)).map .target := by
      rw [he.roots, Syntax.updates, List.flatMap_map, List.map_map, List.map_eq_flatMap]
      rfl
    rw [hu]
    exact updateEach_planned (hf ▸ h) ha
  | @some source rows hb =>
    unfold flush at h
    rw [he.isEmpty] at h
    unfold Syntax.updates
    split at h
    · obtain ⟨rfl, rfl⟩ := run_pure h
      rw [if_pos ‹_›]
      exact .nil ha
    · obtain ⟨m, h1, rfl⟩ := run_map h
      rw [if_neg ‹_›, List.flatMap_singleton]
      have hv := (hb.row (Env.top.extend rows.rows.groups)).append he.part
      obtain ⟨ho, hd⟩ := RowEdit.outline_foldl (Env.top.extend rows.rows.groups) edits rows.row
      rw [← ho, ← hd] at hv
      have hi : RowImage rows.row _ := RowEdit.rowImage_foldl edits .row
      rw [hb.target] at h1
      exact .mutation (.refl _) ha (hb.selectValue (.edited hb.decls hb.name hb.leads hi) hv) h1

/-- The deletion of the rows of the source. Without a source there are no rows to delete. -/
def deletion (rows : Option MutationRows) (root : Syntax.Var) : Build (Plan.Mutation Reference) :=
  match rows with
  | some r => mutation .delete r.target (r.selectValue r.row)
  | none => mutation .delete root .emptyBag

theorem deletion_planned (h : (deletion rows target).run s = (m, s')) (hb : BatchRows s.scopes source rows env)
    (ha : At s env) : Batched env s s' (Syntax.Change.outline source (.delete target)) [m] := by
  cases hb with
  | none => exact .mutation (.refl _) ha .nil h
  | @some source rows hb =>
    have hd := hb.selectValue (.deleted hb.decls hb.name hb.leads) (hb.row _)
    rw [deletion, hb.target] at h
    exact .mutation (.refl _) ha hd h

theorem insert_planned {values : Syntax.Expr} {x : Plan.Expr Reference}
    (h1 : (planInserted rows values).run s = (x, t)) (h2 : (mutation .insert target x).run t = (m, s'))
    (hb : BatchRows s.scopes source rows env) (ha : At s env) :
    Batched env s s' (Syntax.Change.outline source (.insert target values)) [m] := by
  cases hb with
  | none =>
    have hp := planExpr_planned h1 ha
    exact .mutation hp.grows hp.arrives hp.part h2
  | some hb =>
    obtain ⟨hx, ha, hp⟩ := insertPerRow_planned h1 hb ha
    exact .mutation hx ha hp h2

theorem insertValue_planned {value : Syntax.Expr} {onConflict : Option OnConflict} {x : Plan.Expr Reference}
    (h1 : (planExpr .expression value).run s = (x, t))
    (h2 : (mutation (conflictAction onConflict) target (insertedValue rows x)).run t = (m, s'))
    (hb : BatchRows s.scopes source rows env) (ha : At s env) :
    Batched env s s' (Syntax.Change.outline source (.insertValue target value onConflict)) [m] := by
  have hp := planExpr_planned h1 ha
  cases hb with
  | none =>
    refine .mutation hp.grows hp.arrives ?_ h2
    show Part _ _ (x.outline .top ++ []) (x.decls ++ [])
    rw [List.append_nil, List.append_nil]
    exact hp.part
  | some hb =>
    have hb := SourcePlanned.mono hp.grows hb
    exact .mutation hp.grows hp.arrives (hb.selectValue .insertingValue hp.part) h2

/-- The pending edits are flushed before a change that is not an edit. -/
theorem Batched.change {u : BuildState} {pending : List Syntax.Edit} {change : Syntax.Change}
    {changes : List Syntax.Change} {updates rest : List (Plan.Mutation Reference)}
    (hu : Batched env s t ((Syntax.updates source pending).flatMap (Syntax.Change.outline source)) updates)
    (hm : Batched env t u (change.outline source) [m])
    (hr : Batched env u s' (changes.flatMap (Syntax.Change.outline source)) rest) :
    Batched env s s' ((Syntax.updates source pending ++ change :: changes).flatMap (Syntax.Change.outline source))
      (updates ++ m :: rest) := by
  rw [List.flatMap_append, List.flatMap_cons]
  exact hu.append (hm.append hr)

/-- The rows of a batch have the name that its source gives to them. -/
def RowsNamed (source : Option Syntax.MutationSource) (rows : Option MutationRows) : Prop :=
  rows.map (·.rowDecl.name) = source.map (·.rowVar.name)

theorem BatchRows.named {r : Recorder} (hb : BatchRows r source rows env) : RowsNamed source rows := by
  cases hb with
  | none => rfl
  | some hb => exact congrArg Option.some hb.name

theorem RowsNamed.isWholeRow (h : RowsNamed source rows) (path : Syntax.RowPath) :
    path.isWholeRow source = (path.steps.isEmpty && (rows.map (·.isRow path.root)).getD true) := by
  rcases source with _ | source <;> rcases rows with _ | rows
  · rfl
  · cases h
  · cases h
  · have hname : rows.rowDecl.name = source.rowVar.name := Option.some.inj h
    rw [Option.map_some, Option.getD_some, MutationRows.isRow, hname]
    rfl

/-- A removal deletes the rows if its path means the whole row, and is an edit otherwise. -/
theorem planOps_remove (h : RowsNamed source rows) (edits : List RowEdit) (path : Syntax.RowPath)
    (ops : List Syntax.MutationOp) :
    planOps rows edits (.remove path :: ops) =
      if path.isWholeRow source then do
        let updates ← flush rows edits
        let deletion ← deletion rows path.root
        let rest ← planOps rows [] ops
        return updates ++ deletion :: rest
      else planEdit rows path none >>= fun edit => planOps rows (edits ++ [edit]) ops := by
  conv_lhs => unfold planOps
  rw [h.isWholeRow]
  cases path.steps.isEmpty <;> cases rows <;> rfl

/-- Operations make the changes that they are read as, after the edits that are pending. -/
theorem planOps_planned : ∀ {ops : List Syntax.MutationOp} {pending : List Syntax.Edit} {edits : List RowEdit}
    {ms : List (Plan.Mutation Reference)} {s s' : BuildState},
    (planOps rows edits ops).run s = (ms, s') → BatchRows s.scopes source rows env →
    EditsPlanned s.scopes env pending edits → At s env →
    Batched env s s' ((Syntax.changes source pending ops).flatMap (Syntax.Change.outline source)) ms
  | [], _, _, _, _, _, h, hb, he, ha => flush_planned h hb he ha
  | .set assignments :: ops, _, _, _, _, _, h, hb, he, ha => by
    obtain ⟨more, t, h1, h⟩ := run_bind h
    obtain ⟨hx, ha, hm⟩ := planAssignments_planned h1 ha
    have hr := planOps_planned h (hb.mono hx) ((he.mono hx).append hm) ha
    exact { hr with grows := hx.trans hr.grows }
  | .remove path :: ops, _, _, _, _, _, h, hb, he, ha => by
    rw [planOps_remove hb.named] at h
    unfold Syntax.changes
    split at h
    · obtain ⟨updates, t, h1, h⟩ := run_bind h
      obtain ⟨deletion, u, h2, h⟩ := run_bind h
      obtain ⟨rest, h3, rfl⟩ := run_map h
      have hu := flush_planned h1 hb he ha
      have hm := deletion_planned h2 (hb.mono hu.grows) hu.arrives
      rw [if_pos ‹_›]
      exact hu.change hm (planOps_planned h3 (hb.mono (hu.grows.trans hm.grows)) .nil hm.arrives)
    · obtain ⟨edit, t, h1, h⟩ := run_bind h
      obtain ⟨hx, ha, hm⟩ := planEdit_planned h1 ha
      have hr := planOps_planned h (hb.mono hx) ((he.mono hx).append hm) ha
      rw [if_neg ‹_›]
      exact { hr with grows := hx.trans hr.grows }
  | .insert target values :: ops, _, _, _, _, _, h, hb, he, ha => by
    obtain ⟨updates, t, h1, h⟩ := run_bind h
    obtain ⟨inserted, u, h2, h⟩ := run_bind h
    obtain ⟨insertion, v, h3, h⟩ := run_bind h
    obtain ⟨rest, h4, rfl⟩ := run_map h
    have hu := flush_planned h1 hb he ha
    have hm := insert_planned h2 h3 (hb.mono hu.grows) hu.arrives
    exact hu.change hm (planOps_planned h4 (hb.mono (hu.grows.trans hm.grows)) .nil hm.arrives)
  | .insertValue target value onConflict :: ops, _, _, _, _, _, h, hb, he, ha => by
    obtain ⟨updates, t, h1, h⟩ := run_bind h
    obtain ⟨value, u, h2, h⟩ := run_bind h
    obtain ⟨insertion, v, h3, h⟩ := run_bind h
    obtain ⟨rest, h4, rfl⟩ := run_map h
    have hu := flush_planned h1 hb he ha
    have hm := insertValue_planned h2 h3 (hb.mono hu.grows) hu.arrives
    exact hu.change hm (planOps_planned h4 (hb.mono (hu.grows.trans hm.grows)) .nil hm.arrives)

end Mutations

/-! ## Batches -/

/-- A batch makes mutations that stand for its changes, and their locals are recorded. -/
theorem planMutation_planned {m : Syntax.Mutation} {ms : List (Plan.Mutation Reference)} {s s' : BuildState}
    (h : (planMutation m).run s = (ms, s')) (ha : At s .top) :
    s'.scopes.locals.map (·.index) = List.range s'.scopes.locals.length ∧
      Part s'.scopes ((Syntax.changes m.source [] m.operations).flatMap (Syntax.Change.outline m.source))
      (ms.flatMap Plan.Mutation.outline) (ms.flatMap fun m => m.rows.decls) := by
  obtain ⟨t, u, ho, h, hc⟩ := inFrame_run ha.consistent h
  obtain ⟨rows, v, h1, h⟩ := run_bind h
  have ha' := (Planned.entered ha ho).arrives
  obtain ⟨env, hb, ha'⟩ : ∃ env, BatchRows v.scopes m.source rows env ∧ At v env := by
    cases hs : m.source with
    | none =>
      rw [hs] at h1
      obtain ⟨rfl, rfl⟩ := run_pure h1
      exact ⟨_, .none, ha'⟩
    | some source =>
      rw [hs] at h1
      obtain ⟨rows, h2, rfl⟩ := run_map h1
      obtain ⟨-, ha', hb⟩ := planRows_planned h2 ha'
      exact ⟨_, .some hb, ha'⟩
  have hm := planOps_planned h hb .nil ha'
  have hx : u.scopes.Extends s'.scopes := hc ▸ .closeTo u.scopes s.scopes.depth
  refine ⟨?_, hm.part.mono hx⟩
  rw [hc]
  exact hm.arrives.consistent.numbered

end NestedQuery.Logical
