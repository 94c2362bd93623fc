/-
Planning expressions and blocks meets its contract: by induction over the syntax, one case for each form of
expression and for each clause. A block is followed clause by clause, each of which takes the rows planned so
far and the environment seen there one step further.
-/
import NestedQuery.Proofs.Logical.Recording

namespace NestedQuery.Logical

open Lexical (Env)
open Plan (Item Relation)
open Scope (Recorder Sees)
open Syntax (Mark)

/-! ## Operators added to a block -/

/-- The groups that a grouping makes. -/
def groupingGroups (grouping : Option Grouping) : List (List Declaration) := (grouping.map Grouping.decls).toList

def outlineGrouping (env : Env) : Option Grouping → List (Item Reference)
  | none => []
  | some g => Plan.outlineKeys env g.keys

def declsGrouping : Option Grouping → List Declaration
  | none => []
  | some g => Plan.declsKeys g.keys ++ g.decls

/-- `rows'` is `rows` with an operator on top that makes further groups. Its expressions, whose outline is
`items` and whose declarations are `decls`, see what the rows declare. -/
structure Adds (rows rows' : Relation Reference) (groups : List (List Declaration))
    (items : Env → List (Item Reference)) (decls : List Declaration) : Prop where
  outline : ∀ env : Env, rows'.outline env = rows.outline env ++ items (env.extend rows.groups)
  groups : rows'.groups = groups ++ rows.groups
  decls : rows'.decls = rows.decls ++ decls
  itemDecls : rows'.itemDecls = rows.itemDecls

namespace Adds

variable {rows rows' : Relation Reference}

theorem nothing (rows : Relation Reference) : Adds rows rows [] (fun _ => []) [] :=
  ⟨fun _ => (List.append_nil _).symm, rfl, (List.append_nil _).symm, rfl⟩

theorem filter (p : Option (Plan.Expr Reference)) :
    Adds rows (addFilter p rows) [] (Plan.outlineOption · p) (Plan.declsOption p) := by
  cases p with
  | none => exact nothing rows
  | some p => exact ⟨fun _ => rfl, rfl, rfl, rfl⟩

theorem offset (n : Option (Plan.Expr Reference)) :
    Adds rows (addOffset n rows) [] (Plan.outlineOption · n) (Plan.declsOption n) := by
  cases n with
  | none => exact nothing rows
  | some n => exact ⟨fun _ => rfl, rfl, rfl, rfl⟩

theorem limit (n : Option (Plan.Expr Reference)) :
    Adds rows (addLimit n rows) [] (Plan.outlineOption · n) (Plan.declsOption n) := by
  cases n with
  | none => exact nothing rows
  | some n => exact ⟨fun _ => rfl, rfl, rfl, rfl⟩

theorem sort (keys : List (Plan.SortKey Reference)) :
    Adds rows (addSort keys rows) [] (Plan.outlineSortKeys · keys) (Plan.declsSortKeys keys) := by
  cases keys with
  | nil => exact nothing rows
  | cons key keys => exact ⟨fun _ => rfl, rfl, rfl, rfl⟩

theorem lets (bindings : List (Plan.Named Reference)) :
    Adds rows (addLets bindings rows) (Plan.letGroups bindings) (Plan.outlineLets · bindings)
      (Plan.declsLets bindings) := by
  cases bindings with
  | nil => exact nothing rows
  | cons binding bindings => exact ⟨fun _ => rfl, rfl, rfl, rfl⟩

theorem group (grouping : Option Grouping) :
    Adds rows (addGroup grouping rows) (groupingGroups grouping) (outlineGrouping · grouping)
      (declsGrouping grouping) := by
  cases grouping with
  | none => exact nothing rows
  | some g => exact ⟨fun _ => rfl, rfl, rfl, rfl⟩

end Adds

/-- The clauses of a block that are planned so far have made the rows, whose AS locals are those of `aliases`. -/
structure RowsPlanned (env : Env) (s s' : BuildState) (marks : List Mark) (names : List Identifier)
    (rows : Relation Reference) (aliases : List SourceAlias) : Prop where
  planned : Planned (env.extend rows.groups) s s' marks (rows.outline env) rows.decls
  items : ItemsPlanned s'.scopes names rows aliases

/-- Planning the expressions of an operator takes the rows planned so far one operator further. -/
theorem RowsPlanned.add {env : Env} {s t s' : BuildState} {marks marks' : List Mark} {names : List Identifier}
    {rows rows' : Relation Reference} {aliases : List SourceAlias} {groups : List (List Declaration)}
    {items : Env → List (Item Reference)} {decls : List Declaration}
    (h : RowsPlanned env s t marks names rows aliases) (ha : Adds rows rows' groups items decls)
    (h' : Planned ((env.extend rows.groups).extend groups) t s' marks' (items (env.extend rows.groups)) decls) :
    RowsPlanned env s s' (marks ++ marks') names rows' aliases := by
  refine ⟨?_, ?_⟩
  · rw [ha.outline, ha.groups, ha.decls, ← Env.extend_extend]
    exact h.planned.append h'
  · have hi := h.items.mono h'.grows
    exact ⟨ha.itemDecls ▸ hi.decls, ha.itemDecls ▸ hi.names, hi.leads⟩

/-- The operators that are added after a grouping leave its locals nearest. -/
theorem At.seen_group {s : BuildState} {env : Env} {rows : Relation Reference} {grouping : Option Grouping}
    {having : Option (Plan.Expr Reference)} {keys : List (Plan.SortKey Reference)}
    {offset limit : Option (Plan.Expr Reference)}
    (h : At s (env.extend
      (addLimit limit (addOffset offset (addSort keys (addFilter having (addGroup grouping rows))))).groups))
    (g : Grouping) (hg : grouping = some g) :
    (addLimit limit (addOffset offset (addSort keys (addFilter having (addGroup grouping rows))))).groupDecls =
        g.decls ∧
      Seen s.scopes s.scopes.current g.decls := by
  subst hg
  rw [(Adds.limit limit).groups, (Adds.offset offset).groups, (Adds.sort keys).groups, (Adds.filter having).groups] at h
  refine ⟨?_, _, _, h.sees⟩
  cases limit <;> cases offset <;> cases keys <;> cases having <;> rfl

/-! ## Pairing expressions with locals -/

theorem nameAll_spec (env : Env) : ∀ {exprs : List (Plan.Expr Reference)} {decls : List Declaration},
    exprs.length = decls.length → (nameAll exprs decls).map (·.decl) = decls ∧
      Plan.outlineKeys env (nameAll exprs decls) = Plan.outlineList env exprs ∧
      Plan.declsKeys (nameAll exprs decls) = Plan.declsList exprs
  | [], [], _ => ⟨rfl, rfl, rfl⟩
  | e :: exprs, d :: decls, h => by
    obtain ⟨h1, h2, h3⟩ := nameAll_spec env (Nat.succ.inj h)
    exact ⟨congrArg (d :: ·) h1, congrArg (e.outline env ++ ·) h2, congrArg (e.decls ++ ·) h3⟩

/-! ## References generated for a projection -/

/-- The locals that `SELECT *` stands for. -/
def starDecls (aliases : List SourceAlias) (grouping : Option Grouping) : List Declaration :=
  match grouping with
  | some g => g.decls
  | none => aliases.map (·.decl)

/-- Items that are each just a reference generated for a local. -/
theorem stands_generated {r : Recorder} {env : Env} {α : Type} (decl : α → Declaration) (scope : α → Nat)
    (item : α → Plan.ProjectItem Reference)
    (hi : ∀ a rest, Plan.outlineItems env (item a :: rest) =
      .var env ((decl a).reference (scope a)) :: Plan.outlineItems env rest) :
    ∀ {as : List α}, (∀ a ∈ as, ∃ group, Seen r (scope a) group ∧ decl a ∈ group) →
      List.Forall₂ (Stands r) (((as.map decl).map (·.name)).map .generated) (Plan.outlineItems env (as.map item))
  | [], _ => .nil
  | a :: as, h => by
    obtain ⟨group, hg, hd⟩ := h a List.mem_cons_self
    rw [List.map_cons, List.map_cons, List.map_cons, List.map_cons, hi]
    exact .cons (.generated hg hd) (stands_generated decl scope item hi fun b hb => h b (List.mem_cons_of_mem a hb))

theorem declsItems_eq_nil {α : Type} {item : α → Plan.ProjectItem Reference}
    (hi : ∀ a rest, Plan.declsItems (item a :: rest) = Plan.declsItems rest) :
    ∀ as : List α, Plan.declsItems (as.map item) = []
  | [] => rfl
  | a :: as => (hi a _).trans (declsItems_eq_nil hi as)

/-- The projection of `SELECT *` stands for the references generated for it and declares nothing. -/
theorem planned_star {env : Env} {s : BuildState} {aliases : List SourceAlias} {grouping : Option Grouping}
    {scope : Nat} (h : At s env) (hl : ∀ a ∈ aliases, Leads s.scopes a.scope a.decl)
    (hg : ∀ g, grouping = some g → Seen s.scopes scope g.decls) :
    Planned env s s (((starDecls aliases grouping).map (·.name)).map .generated)
      ((star aliases grouping scope).outline env) (star aliases grouping scope).decls := by
  cases grouping with
  | none =>
    have hd : (star aliases none scope).decls = [] := declsItems_eq_nil (fun _ _ => rfl) aliases
    have hs : List.Forall₂ (Stands s.scopes) (((aliases.map (·.decl)).map (·.name)).map .generated)
        ((star aliases none scope).outline env) :=
      stands_generated _ SourceAlias.scope _ (fun _ _ => rfl) fun a ha => (hl a ha).seen
    rw [hd]
    exact { Planned.nil h with stands := hs }
  | some g =>
    have hd : (star aliases (some g) scope).decls = [] := declsItems_eq_nil (fun _ _ => rfl) g.decls
    have hs : List.Forall₂ (Stands s.scopes) (((g.decls.map id).map (·.name)).map .generated)
        ((star aliases (some g) scope).outline env) :=
      stands_generated _ (fun _ => scope) _ (fun _ _ => rfl) fun _ hd => ⟨g.decls, hg g rfl, hd⟩
    rw [List.map_id] at hs
    rw [hd]
    exact { Planned.nil h with stands := hs }

section Star

variable {r : Recorder} {rows : Relation Reference} {aliases : List SourceAlias} {grouping : Option Grouping}

theorem starDecls_names {source : Option Syntax.FromSource} {groupBy : Option Syntax.GroupBy}
    (hi : ItemsPlanned r (Syntax.starNames source none) rows aliases)
    (hg : grouping.map (fun g => g.decls.map (·.name)) = groupBy.map Syntax.GroupBy.names) :
    (starDecls aliases grouping).map (·.name) = Syntax.starNames source groupBy := by
  cases grouping with
  | none =>
    rw [Option.map_eq_none_iff.1 hg.symm, starDecls, hi.decls, hi.names]
  | some g =>
    obtain ⟨g', hb, hn⟩ := Option.map_eq_some_iff.1 hg.symm
    rw [hb, starDecls, Syntax.starNames, hn]

/-- What is planned for `SELECT *` once the clauses of the block are planned. -/
theorem starPlanned {b : Syntax.Select} {scope : Nat} {x : Plan.Projection Reference}
    (hi : ItemsPlanned r (Syntax.starNames b.source none) rows aliases)
    (hg : grouping.map (fun g => g.decls.map (·.name)) = b.groupBy.map Syntax.GroupBy.names)
    (hs : ∀ g, grouping = some g → rows.groupDecls = g.decls ∧ Seen r scope g.decls)
    (hx : b.projection = .star → x = star aliases grouping scope) : StarPlanned r b rows x := by
  refine ⟨fun hp hn => ⟨aliases, hi, ?_⟩, fun g' hp hb => ?_⟩
  · rw [hn, Option.map_none, Option.map_eq_none_iff] at hg
    rw [hx hp, hg]
    rfl
  · rw [hb, Option.map_some, Option.map_eq_some_iff] at hg
    obtain ⟨g, rfl, hn⟩ := hg
    obtain ⟨hd, hsees⟩ := hs g rfl
    rw [hd, hx hp]
    exact ⟨hn, scope, hsees, rfl⟩

end Star

/-! ## FROM items -/

/-- An item whose source is planned opens a frame for its locals, of which the AS local comes first. -/
theorem RowsPlanned.item {kind : Scope.FrameKind} {a b c : Option Syntax.Alias} {name : Identifier}
    {location : Location} {scope : Nat} {asDecl : Declaration} {atDecl byDecl : Option Declaration}
    {s t u v w s' : BuildState} {env : Env} {marks : List Mark} {rows : Relation Reference} {decls : List Declaration}
    (hk : ∀ i p l, (Scope.Frame.mk i p kind l).isBoundary = false) (hp : Planned env s t marks (rows.outline env) decls)
    (h1 : (openFrame kind).run t = (scope, u)) (h2 : (declareOr a name location).run u = (asDecl, v))
    (h3 : (declareOption b).run v = (atDecl, w)) (h4 : (declareOption c).run w = (byDecl, s'))
    (hg : rows.groups = [Plan.itemGroup asDecl atDecl byDecl])
    (hd : rows.decls = decls ++ Plan.itemGroup asDecl atDecl byDecl) (hi : rows.itemDecls = [asDecl]) :
    RowsPlanned env s s' marks [Syntax.nameOr a name] rows [⟨asDecl, scope⟩] := by
  obtain ⟨rfl, ho⟩ := openFrame_run hp.arrives.consistent h1
  obtain ⟨ho, hn⟩ := declareOr_opened h2 ho
  obtain ⟨ho, -⟩ := declareOption_opened h3 ho
  obtain ⟨ho, -⟩ := declareOption_opened h4 ho
  have hp' := Planned.opened hp.arrives ho hk
  have hl : Leads s'.scopes t.scopes.nextFrame asDecl := by
    rw [← ho.current]
    exact ⟨_, _, _, hp'.arrives.sees⟩
  refine ⟨?_, hi.symm, by rw [hi, List.map_singleton, hn], by simpa using hl⟩
  have := hp.append hp'
  rw [List.append_nil, List.append_nil] at this
  rw [hg, hd]
  exact this

/-! ## The induction -/

mutual

theorem planExpr_planned : ∀ {role : Role} {e : Syntax.Expr} {x : Plan.Expr Reference} {s s' : BuildState} {env : Env},
    (planExpr role e).run s = (x, s') → At s env → Planned env s s' (e.outline role) (x.outline env) x.decls
  | _, .lit _, _, _, _, _, h, ha => by
    obtain ⟨rfl, rfl⟩ := run_pure h
    exact .nil ha
  | _, .var v, _, _, _, _, h, ha => by
    obtain ⟨r, hr, rfl⟩ := run_map h
    obtain ⟨rfl, rfl⟩ := reference_run hr
    exact .cons (.var ha.sees) (.nil ha)
  | _, .path root steps, _, _, _, _, h, ha => by
    obtain ⟨root, t, h1, h⟩ := run_bind h
    obtain ⟨steps, h2, rfl⟩ := run_map h
    exact (planExpr_planned h1 ha).andThen (planSteps_planned h2)
  | _, .unary _ operand, _, _, _, _, h, ha => by
    obtain ⟨operand, h1, rfl⟩ := run_map h
    exact (planExpr_planned h1 ha :)
  | _, .binary _ lhs rhs, _, _, _, _, h, ha => by
    obtain ⟨lhs, t, h1, h⟩ := run_bind h
    obtain ⟨rhs, h2, rfl⟩ := run_map h
    exact (planExpr_planned h1 ha).andThen (planExpr_planned h2)
  | _, .call _ args, _, _, _, _, h, ha => by
    obtain ⟨args, h1, rfl⟩ := run_map h
    exact planExprs_planned h1 ha
  | _, .callAgg _ _ arg, _, _, _, _, h, ha => by
    obtain ⟨arg, h1, rfl⟩ := run_map h
    exact (planExpr_planned h1 ha :)
  | _, .case operand branches otherwise, _, _, _, _, h, ha => by
    obtain ⟨operand, t, h1, h⟩ := run_bind h
    obtain ⟨branches, u, h2, h⟩ := run_bind h
    obtain ⟨otherwise, h3, rfl⟩ := run_map h
    exact ((planOption_planned h1 ha).andThen (planBranches_planned h2)).andThen (planOption_planned h3)
  | _, .collection _ values, _, _, _, _, h, ha => by
    obtain ⟨values, h1, rfl⟩ := run_map h
    exact planExprs_planned h1 ha
  | _, .struct fields, _, _, _, _, h, ha => by
    obtain ⟨fields, h1, rfl⟩ := run_map h
    exact planFields_planned h1 ha
  | _, .cast value _, _, _, _, _, h, ha => by
    obtain ⟨value, h1, rfl⟩ := run_map h
    exact (planExpr_planned h1 ha :)
  | _, .select block, _, _, _, _, h, ha => by
    obtain ⟨relation, h1, rfl⟩ := run_map h
    exact planSelect_planned h1 ha
  | _, .bagOp _ _ left right, _, _, _, _, h, ha => by
    obtain ⟨left, t, h1, h⟩ := run_bind h
    obtain ⟨right, h2, rfl⟩ := run_map h
    exact (planExpr_planned h1 ha).andThen (planExpr_planned h2)

theorem planExprs_planned : ∀ {es : List Syntax.Expr} {xs : List (Plan.Expr Reference)} {s s' : BuildState} {env : Env},
    (planExprs es).run s = (xs, s') → At s env →
    Planned env s s' (Syntax.outlineList es) (Plan.outlineList env xs) (Plan.declsList xs)
  | [], _, _, _, _, h, ha => by
    obtain ⟨rfl, rfl⟩ := run_pure h
    exact .nil ha
  | e :: es, _, _, _, _, h, ha => by
    obtain ⟨e, t, h1, h⟩ := run_bind h
    obtain ⟨es, h2, rfl⟩ := run_map h
    exact (planExpr_planned h1 ha).andThen (planExprs_planned h2)

theorem planOption_planned : ∀ {e : Option Syntax.Expr} {x : Option (Plan.Expr Reference)} {s s' : BuildState}
    {env : Env}, (planOption e).run s = (x, s') → At s env →
    Planned env s s' (Syntax.outlineOption e) (Plan.outlineOption env x) (Plan.declsOption x)
  | none, _, _, _, _, h, ha => by
    obtain ⟨rfl, rfl⟩ := run_pure h
    exact .nil ha
  | some e, _, _, _, _, h, ha => by
    obtain ⟨e, h1, rfl⟩ := run_map h
    exact planExpr_planned h1 ha

theorem planSteps_planned : ∀ {steps : List Syntax.PathStep} {xs : List (Plan.PathStep Reference)} {s s' : BuildState}
    {env : Env}, (planSteps steps).run s = (xs, s') → At s env →
    Planned env s s' (Syntax.outlineSteps steps) (Plan.outlineSteps env xs) (Plan.declsSteps xs)
  | [], _, _, _, _, h, ha => by
    obtain ⟨rfl, rfl⟩ := run_pure h
    exact .nil ha
  | .field _ :: steps, _, _, _, _, h, ha => by
    obtain ⟨steps, h1, rfl⟩ := run_map h
    exact (planSteps_planned h1 ha :)
  | .index key :: steps, _, _, _, _, h, ha => by
    obtain ⟨key, t, h1, h⟩ := run_bind h
    obtain ⟨steps, h2, rfl⟩ := run_map h
    exact (planExpr_planned h1 ha).andThen (planSteps_planned h2)
  | .wildcard :: steps, _, _, _, _, h, ha => by
    obtain ⟨steps, h1, rfl⟩ := run_map h
    exact (planSteps_planned h1 ha :)
  | .unpivot :: steps, _, _, _, _, h, ha => by
    obtain ⟨steps, h1, rfl⟩ := run_map h
    exact (planSteps_planned h1 ha :)

theorem planBranches_planned : ∀ {branches : List Syntax.CaseBranch} {xs : List (Plan.CaseBranch Reference)}
    {s s' : BuildState} {env : Env}, (planBranches branches).run s = (xs, s') → At s env →
    Planned env s s' (Syntax.outlineBranches branches) (Plan.outlineBranches env xs) (Plan.declsBranches xs)
  | [], _, _, _, _, h, ha => by
    obtain ⟨rfl, rfl⟩ := run_pure h
    exact .nil ha
  | ⟨condition, result⟩ :: branches, _, _, _, _, h, ha => by
    obtain ⟨condition, t, h1, h⟩ := run_bind h
    obtain ⟨result, u, h2, h⟩ := run_bind h
    obtain ⟨branches, h3, rfl⟩ := run_map h
    exact ((planExpr_planned h1 ha).andThen (planExpr_planned h2)).andThen (planBranches_planned h3)

theorem planFields_planned : ∀ {fields : List Syntax.StructField} {xs : List (Plan.StructField Reference)}
    {s s' : BuildState} {env : Env}, (planFields fields).run s = (xs, s') → At s env →
    Planned env s s' (Syntax.outlineFields fields) (Plan.outlineFields env xs) (Plan.declsFields xs)
  | [], _, _, _, _, h, ha => by
    obtain ⟨rfl, rfl⟩ := run_pure h
    exact .nil ha
  | ⟨key, value⟩ :: fields, _, _, _, _, h, ha => by
    obtain ⟨key, t, h1, h⟩ := run_bind h
    obtain ⟨value, u, h2, h⟩ := run_bind h
    obtain ⟨fields, h3, rfl⟩ := run_map h
    exact ((planExpr_planned h1 ha).andThen (planExpr_planned h2)).andThen (planFields_planned h3)

theorem planSelect_planned : ∀ {b : Syntax.Select} {x : Relation Reference} {s s' : BuildState} {env : Env},
    (planSelect b).run s = (x, s') → At s env → Planned env s s' b.outline (x.outline env) x.decls
  | ⟨quantifier, projection, source, lets, filter, groupBy, having, orderBy, limit, offset⟩, _, s, s', env, h, ha => by
    obtain ⟨t, u, ho, h, hc⟩ := inFrame_run ha.consistent h
    obtain ⟨⟨rows, aliases⟩, _, h1, h⟩ := run_bind h
    obtain ⟨bindings, _, h2, h⟩ := run_bind h
    obtain ⟨condition, _, h3, h⟩ := run_bind h
    obtain ⟨grouping, _, h4, h⟩ := run_bind h
    obtain ⟨having', _, h5, h⟩ := run_bind h
    obtain ⟨keys, _, h6, h⟩ := run_bind h
    obtain ⟨offset', _, h7, h⟩ := run_bind h
    obtain ⟨limit', _, h8, h⟩ := run_bind h
    obtain ⟨projection', h9, rfl⟩ := run_map h
    -- clause by clause in the order of planning: each sees what the ones before it declare
    have hp := Planned.entered ha ho
    have hr := planSource_planned h1 hp.arrives
    have hr := hr.add (.lets bindings) (planLets_planned h2 hr.planned.arrives)
    have hr := hr.add (.filter condition) (planOption_planned h3 hr.planned.arrives)
    obtain ⟨hg, hn⟩ := planGroup_planned h4 hr.planned.arrives
    have hr := hr.add (.group grouping) hg
    have hr := hr.add (.filter having') (planOption_planned h5 hr.planned.arrives)
    have hr := hr.add (.sort keys) (planOrder_planned h6 hr.planned.arrives)
    have hr := hr.add (.offset offset') (planOption_planned h7 hr.planned.arrives)
    have hr := hr.add (.limit limit') (planOption_planned h8 hr.planned.arrives)
    -- the frame of a grouping is the current one still when the projection is planned
    have hs := fun g hg => hr.planned.arrives.seen_group g hg
    obtain ⟨hq, hstar⟩ := planProjection_planned h9 hr.planned.arrives hr.items.leads fun g hg => (hs g hg).2
    rw [starDecls_names hr.items hn] at hq
    have hs := fun g hg => (hs g hg).imp_right (Seen.mono hq.grows)
    have hb := starPlanned
      (b := ⟨quantifier, projection, source, lets, filter, groupBy, having, orderBy, limit, offset⟩)
      (hr.items.mono hq.grows) hn hs hstar
    exact (hp.append (.cons (.select hb) (hr.planned.append hq))).closed ha hc

theorem planSource_planned : ∀ {source : Option Syntax.FromSource} {x : Relation Reference} {aliases : List SourceAlias}
    {s s' : BuildState} {env : Env}, (planSource source).run s = ((x, aliases), s') → At s env →
    RowsPlanned env s s' (Syntax.outlineSource source) (Syntax.starNames source none) x aliases
  | none, _, _, _, _, _, h, ha => by
    obtain ⟨h, rfl⟩ := run_pure h
    cases h
    exact ⟨.nil ha, rfl, rfl, fun _ h => nomatch h⟩
  | some source, _, _, _, _, _, h, ha => planFrom_planned h ha

theorem planFrom_planned : ∀ {before : Nat} {source : Syntax.FromSource} {x : Relation Reference}
    {aliases : List SourceAlias} {s s' : BuildState} {env : Env},
    (planFrom before source).run s = ((x, aliases), s') → At s env →
    RowsPlanned env s s' source.outline (source.names before) x aliases
  | _, .scan ⟨_, _, _, _, _⟩, _, _, _, _, _, h, ha => by
    obtain ⟨source, t, h1, h⟩ := run_bind h
    obtain ⟨scope, u, h2, h⟩ := run_bind h
    obtain ⟨asDecl, v, h3, h⟩ := run_bind h
    obtain ⟨atDecl, w, h4, h⟩ := run_bind h
    obtain ⟨byDecl, h5, he⟩ := run_map h
    cases he
    exact .item (fun _ _ _ => rfl) (planExpr_planned h1 ha) h2 h3 h4 h5 rfl rfl rfl
  | _, .unpivot ⟨_, _, _, _, _⟩, _, _, _, _, _, h, ha => by
    obtain ⟨source, t, h1, h⟩ := run_bind h
    obtain ⟨scope, u, h2, h⟩ := run_bind h
    obtain ⟨asDecl, v, h3, h⟩ := run_bind h
    obtain ⟨atDecl, w, h4, h⟩ := run_bind h
    obtain ⟨byDecl, h5, he⟩ := run_map h
    cases he
    exact .item (fun _ _ _ => rfl) (planExpr_planned h1 ha) h2 h3 h4 h5 rfl rfl rfl
  | before, .join _ left _ _, _, _, _, _, env, h, ha => by
    obtain ⟨⟨l, leftAliases⟩, t, h1, h⟩ := run_bind h
    obtain ⟨⟨r, rightAliases⟩, u, h2, h⟩ := run_bind h
    obtain ⟨predicate, h3, he⟩ := run_map h
    cases he
    obtain ⟨hp1, hi1⟩ := planFrom_planned h1 ha
    -- the items to the left are counted by their AS locals
    have hlen : leftAliases.length = (left.names before).length := by
      rw [← hi1.names, List.length_map, ← hi1.decls, List.length_map]
    rw [hlen] at h2
    obtain ⟨hp2, hi2⟩ := planFrom_planned h2 hp1.arrives
    rw [Env.extend_extend] at hp2
    have hp3 := planOption_planned h3 hp2.arrives
    have hi1 := hi1.mono (hp2.grows.trans hp3.grows)
    have hi2 := hi2.mono hp3.grows
    refine ⟨(hp1.append hp2).append hp3, ?_, ?_, ?_⟩
    · rw [List.map_append, hi1.decls, hi2.decls]; rfl
    · show (l.itemDecls ++ r.itemDecls).map _ = _
      rw [List.map_append, hi1.names, hi2.names]; rfl
    · intro a hm
      rcases List.mem_append.1 hm with hm | hm
      · exact hi1.leads a hm
      · exact hi2.leads a hm

theorem planLets_planned : ∀ {lets : List Syntax.LetBinding} {xs : List (Plan.Named Reference)} {s s' : BuildState}
    {env : Env}, (planLets lets).run s = (xs, s') → At s env →
    Planned (env.extend (Plan.letGroups xs)) s s' (Syntax.outlineLets lets) (Plan.outlineLets env xs)
      (Plan.declsLets xs)
  | [], _, _, _, _, h, ha => by
    obtain ⟨rfl, rfl⟩ := run_pure h
    exact .nil ha
  | ⟨expr, asAlias⟩ :: lets, _, _, _, env, h, ha => by
    obtain ⟨value, t, h1, h⟩ := run_bind h
    obtain ⟨_, u, h2, h⟩ := run_bind h
    obtain ⟨decl, v, h3, h⟩ := run_bind h
    obtain ⟨rest, h4, rfl⟩ := run_map h
    have hp1 := planExpr_planned h1 ha
    obtain ⟨-, ho⟩ := openFrame_run hp1.arrives.consistent h2
    obtain ⟨ho, -⟩ := declare_opened h3 ho
    have hp2 := Planned.opened hp1.arrives ho (fun _ _ _ => rfl)
    have hp3 := planLets_planned h4 hp2.arrives
    have hg : Plan.letGroups (⟨value, decl⟩ :: rest) = Plan.letGroups rest ++ [[decl]] := by
      simp [Plan.letGroups]
    rw [hg, ← Env.extend_extend]
    simpa [Syntax.outlineLets, Plan.outlineLets, Plan.declsLets] using (hp1.append hp2).append hp3

theorem planGroup_planned : ∀ {groupBy : Option Syntax.GroupBy} {x : Option Grouping} {s s' : BuildState} {env : Env},
    (planGroup groupBy).run s = (x, s') → At s env →
    Planned (env.extend (groupingGroups x)) s s' (Syntax.outlineGroup groupBy) (outlineGrouping env x)
        (declsGrouping x) ∧
      x.map (fun g => g.decls.map (·.name)) = groupBy.map Syntax.GroupBy.names
  | none, _, _, _, _, h, ha => by
    obtain ⟨rfl, rfl⟩ := run_pure h
    exact ⟨.nil ha, rfl⟩
  | some ⟨keys, groupAs⟩, _, _, _, env, h, ha => by
    obtain ⟨exprs, t, h1, h⟩ := run_bind h
    obtain ⟨_, u, h2, h⟩ := run_bind h
    obtain ⟨decls, v, h3, h⟩ := run_bind h
    obtain ⟨groupAs, h4, rfl⟩ := run_map h
    obtain ⟨hp, hlen⟩ := planKeys_planned h1 ha
    obtain ⟨-, ho⟩ := openFrame_run hp.arrives.consistent h2
    obtain ⟨ho, hn⟩ := declareKeys_opened h3 ho
    obtain ⟨ho, hn'⟩ := declareOption_opened h4 ho
    have hp' := Planned.opened hp.arrives ho (fun _ _ _ => rfl)
    -- all keys are planned before the first is declared, and only then paired with their locals
    have hlen : exprs.length = decls.length := by
      rw [hlen, ← Syntax.keyNames_length 1 keys, ← hn, List.length_map]
    obtain ⟨e1, e2, e3⟩ := nameAll_spec env hlen
    have hd : Grouping.decls ⟨nameAll exprs decls, groupAs⟩ = decls ++ groupAs.toList := by
      rw [Grouping.decls, e1]
    refine ⟨?_, ?_⟩
    · simpa [groupingGroups, Syntax.outlineGroup, outlineGrouping, declsGrouping, hd, e2, e3] using hp.append hp'
    · rw [Option.map_some, hd, List.map_append, hn, ← Option.toList_map, hn']
      rfl

theorem planKeys_planned : ∀ {keys : List Syntax.GroupKey} {xs : List (Plan.Expr Reference)} {s s' : BuildState}
    {env : Env}, (planKeys keys).run s = (xs, s') → At s env →
    Planned env s s' (Syntax.outlineKeys keys) (Plan.outlineList env xs) (Plan.declsList xs) ∧ xs.length = keys.length
  | [], _, _, _, _, h, ha => by
    obtain ⟨rfl, rfl⟩ := run_pure h
    exact ⟨.nil ha, rfl⟩
  | ⟨expr, _, _⟩ :: keys, _, _, _, _, h, ha => by
    obtain ⟨e, t, h1, h⟩ := run_bind h
    obtain ⟨es, h2, rfl⟩ := run_map h
    have hp := planExpr_planned h1 ha
    obtain ⟨hp', hl⟩ := planKeys_planned h2 hp.arrives
    exact ⟨hp.append hp', congrArg (· + 1) hl⟩

theorem planOrder_planned : ∀ {keys : List Syntax.OrderItem} {xs : List (Plan.SortKey Reference)} {s s' : BuildState}
    {env : Env}, (planOrder keys).run s = (xs, s') → At s env →
    Planned env s s' (Syntax.outlineOrder keys) (Plan.outlineSortKeys env xs) (Plan.declsSortKeys xs)
  | [], _, _, _, _, h, ha => by
    obtain ⟨rfl, rfl⟩ := run_pure h
    exact .nil ha
  | ⟨expr, _, _⟩ :: keys, _, _, _, _, h, ha => by
    obtain ⟨e, t, h1, h⟩ := run_bind h
    obtain ⟨es, h2, rfl⟩ := run_map h
    exact (planExpr_planned h1 ha).andThen (planOrder_planned h2)

theorem planProjection_planned : ∀ {aliases : List SourceAlias} {grouping : Option Grouping} {p : Syntax.Projection}
    {x : Plan.Projection Reference} {s s' : BuildState} {env : Env},
    (planProjection aliases grouping p).run s = (x, s') → At s env → (∀ a ∈ aliases, Leads s.scopes a.scope a.decl) →
    (∀ g, grouping = some g → Seen s.scopes s.scopes.current g.decls) →
    Planned env s s' (p.outline ((starDecls aliases grouping).map (·.name))) (x.outline env) x.decls ∧
      (p = .star → x = star aliases grouping s.scopes.current)
  | _, _, .star, _, _, _, _, h, ha, hl, hg => by
    obtain ⟨h, rfl⟩ := Prod.mk.inj h
    cases h
    exact ⟨planned_star ha hl hg, fun _ => rfl⟩
  | _, _, .list items, _, _, _, _, h, ha, _, _ => by
    obtain ⟨items, h1, rfl⟩ := run_map h
    exact ⟨planItems_planned h1 ha, fun h => nomatch h⟩
  | _, _, .value expr, _, _, _, _, h, ha, _, _ => by
    obtain ⟨expr, h1, rfl⟩ := run_map h
    exact ⟨planExpr_planned h1 ha, fun h => nomatch h⟩
  | _, _, .pivot value key, _, _, _, _, h, ha, _, _ => by
    obtain ⟨value, t, h1, h⟩ := run_bind h
    obtain ⟨key, h2, rfl⟩ := run_map h
    exact ⟨(planExpr_planned h1 ha).andThen (planExpr_planned h2), fun h => nomatch h⟩

theorem planItems_planned : ∀ {ordinal : Nat} {items : List Syntax.SelectItem} {xs : List (Plan.ProjectItem Reference)}
    {s s' : BuildState} {env : Env}, (planItems ordinal items).run s = (xs, s') → At s env →
    Planned env s s' (Syntax.outlineItems items) (Plan.outlineItems env xs) (Plan.declsItems xs)
  | _, [], _, _, _, _, h, ha => by
    obtain ⟨rfl, rfl⟩ := run_pure h
    exact .nil ha
  | _, .expr expr _ :: items, _, _, _, _, h, ha => by
    obtain ⟨e, t, h1, h⟩ := run_bind h
    obtain ⟨rest, h2, rfl⟩ := run_map h
    exact (planExpr_planned h1 ha).andThen (planItems_planned h2)
  | _, .all expr :: items, _, _, _, _, h, ha => by
    obtain ⟨e, t, h1, h⟩ := run_bind h
    obtain ⟨rest, h2, rfl⟩ := run_map h
    exact (planExpr_planned h1 ha).andThen (planItems_planned h2)

end

end NestedQuery.Logical
