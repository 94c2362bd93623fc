/-
The case rules of aliases in planning. The plans of statements that differ only in the case rules of their aliases
differ only in the case rules of their declarations: a repeated name is found by its text, a reference that planning
itself makes is quoted, a row is known by the text of its alias, and an implied name comes from an expression. `Alike`
says so of two parts of planning, and it is kept by sequencing.
-/
import NestedQuery.Proofs.Logical.Steps
import NestedQuery.Proofs.Plan.Redeclaration
import NestedQuery.Proofs.Syntax.Aliases

namespace NestedQuery

/-! ## Without case rules -/

/-- The alias, made bare. -/
def Syntax.Alias.uncased (a : Syntax.Alias) : Syntax.Alias := { a with name := .bare a.name.text }

/-- The declaration, made bare. -/
def Declaration.uncased (d : Declaration) : Declaration := { d with name := .bare d.name.text }

/-- The local, made bare. -/
def Local.uncased (l : Local) : Local := { l with name := .bare l.name.text }

namespace Scope.Recorder

/-- The recording with its locals made bare. -/
def uncased (r : Recorder) : Recorder := { r with locals := r.locals.map Local.uncased }

theorem uncased_declare (r : Recorder) (name : Identifier) :
    (r.declare name).uncased = r.uncased.declare (.bare name.text) := by
  simp only [uncased, declare, nextLocal, List.map_append, List.length_map]
  rfl

theorem currentLocals_uncased (r : Recorder) : r.uncased.currentLocals = r.currentLocals.map Local.uncased := by
  unfold currentLocals
  rw [show r.uncased.tree.frame? r.uncased.current = r.tree.frame? r.current from rfl]
  cases r.tree.frame? r.current with
  | none => rfl
  | some f =>
    show f.locals.filterMap ((r.locals.map Local.uncased)[·]?) = _
    simp only [List.getElem?_map, List.map_filterMap]

end Scope.Recorder

namespace Logical

open Plan (Relation)
open Scope (FrameKind)
open Syntax (Alias)

def BuildState.uncased (s : BuildState) : BuildState := { s with scopes := s.scopes.uncased }

/-! ## Runs that differ in case rules only -/

/-- From states that differ in case rules only, `x` and `y` lead to such states, and `f` does not tell their results
apart. -/
def Alike {α γ : Type} (f : α → γ) (x y : Build α) : Prop :=
  ∀ s t, s.uncased = t.uncased → f (x.run s).1 = f (y.run t).1 ∧ (x.run s).2.uncased = (y.run t).2.uncased

namespace Alike

variable {α β γ δ : Type} {f : α → γ} {g : β → δ} {x y : Build α}

theorem pure {a b : α} (h : f a = f b) : Alike f (Pure.pure a) (Pure.pure b) := fun _ _ hs => ⟨h, hs⟩

theorem bind {k l : α → Build β} (hx : Alike f x y) (hk : ∀ a b, f a = f b → Alike g (k a) (l b)) :
    Alike g (x >>= k) (y >>= l) := by
  intro s t hs
  obtain ⟨hr, hs⟩ := hx s t hs
  exact hk _ _ hr _ _ hs

theorem map {k l : α → β} (hx : Alike f x y) (hk : ∀ a b, f a = f b → g (k a) = g (l b)) :
    Alike g (x >>= fun a => Pure.pure (k a)) (y >>= fun a => Pure.pure (l a)) :=
  hx.bind fun a b h => .pure (hk a b h)

theorem currentScope : Alike id currentScope currentScope :=
  fun _ _ hs => ⟨(congrArg (fun u : BuildState => u.scopes.current) hs :), hs⟩

theorem reference (v : Syntax.Var) (role : Role) : Alike id (reference v role) (reference v role) :=
  currentScope.map fun _ _ h => congrArg (Reference.mk v.name v.qualifier role · v.location) h

theorem openFrame (kind : FrameKind) : Alike id (openFrame kind) (openFrame kind) :=
  fun _ _ hs => ⟨(congrArg (fun u : BuildState => u.scopes.nextFrame) hs :),
    congrArg (fun u : BuildState => { u with scopes := u.scopes.openFrame kind }) hs⟩

theorem inFrame (kind : FrameKind) (h : Alike f x y) : Alike f (inFrame kind x) (inFrame kind y) := by
  refine bind (f := BuildState.uncased) (fun _ _ hs => ⟨hs, hs⟩) fun a b hd => (openFrame kind).bind fun _ _ _ =>
    h.bind fun _ _ hr => bind (f := id) ?_ fun _ _ _ => .pure hr
  -- as many frames are open in both, so the same are closed
  have hd : a.scopes.depth = b.scopes.depth := (congrArg (fun u : BuildState => u.scopes.depth) hd :)
  rw [hd]
  exact fun _ _ hs => ⟨rfl, congrArg (fun u : BuildState => { u with scopes := u.scopes.closeTo b.scopes.depth }) hs⟩

/-! ### Declarations -/

/-- The state after a declaration, without case rules, goes by the text of the name. -/
theorem uncased_run_declare (name : Identifier) (location : Location) (s : BuildState) :
    ((declare name location).run s).2.uncased = ⟨s.uncased.scopes.declare (.bare name.text), s.uncased.problems ++
      if s.uncased.scopes.currentLocals.any (·.name.sameName (.bare name.text)) then
        [⟨location, .variablePreviouslyDefined name.text⟩] else []⟩ := by
  rw [declare_run_eq, show s.uncased.scopes.currentLocals = _ from s.scopes.currentLocals_uncased, List.any_map]
  exact congrArg (BuildState.mk · _) (s.scopes.uncased_declare name)

theorem declare {i j : Identifier} (location : Location) (h : i.text = j.text) :
    Alike Declaration.uncased (declare i location) (declare j location) := by
  intro s t hs
  refine ⟨?_, ?_⟩
  · have hn : s.scopes.nextLocal = t.scopes.nextLocal := by
      have hl := congrArg (fun u : BuildState => u.scopes.locals.length) hs
      exact (List.length_map _).symm.trans (hl.trans (List.length_map _))
    rw [declare_run_eq, declare_run_eq, hn]
    exact congrArg (fun text => Declaration.mk (.bare text) t.scopes.nextLocal location) h
  · rw [uncased_run_declare, uncased_run_declare, hs, h]

theorem declareAlias (a : Alias) : Alike Declaration.uncased (declareAlias a) (declareAlias a.uncased) :=
  declare a.location rfl

theorem declareOption : ∀ a : Option Alias,
    Alike (Option.map Declaration.uncased) (declareOption a) (declareOption (a.map Alias.uncased))
  | none => .pure rfl
  | some a => (declareAlias a).map fun _ _ h => congrArg some h

theorem declareOr (a : Option Alias) (name : Identifier) (location : Location) :
    Alike Declaration.uncased (declareOr a name location) (declareOr (a.map Alias.uncased) name location) := by
  cases a with
  | none => exact declare location rfl
  | some a => exact declareAlias a

theorem declareKeys : ∀ (ordinal : Nat) (keys : List Syntax.GroupKey),
    Alike (List.map Declaration.uncased) (declareKeys ordinal keys)
      (declareKeys ordinal (Syntax.mapAliasesKeys Alias.uncased keys))
  | _, [] => .pure rfl
  | ordinal, ⟨expr, asAlias, location⟩ :: keys => by
    have hp : Syntax.GroupKey.place ⟨expr.mapAliases Alias.uncased, asAlias.map Alias.uncased, location⟩ =
        Syntax.GroupKey.place ⟨expr, asAlias, location⟩ := by
      unfold Syntax.GroupKey.place
      rw [Syntax.Expr.firstVar?_mapAliases]
    show Alike _ _ (Logical.declareOr _ ((expr.mapAliases _).impliedAlias ordinal)
      (Syntax.GroupKey.place ⟨_, _, location⟩) >>= _)
    rw [hp, Syntax.Expr.impliedAlias_mapAliases]
    exact (declareOr asAlias _ _).bind fun _ _ hd => (declareKeys (ordinal + 1) keys).map fun _ _ hds =>
      congrArg₂ List.cons hd hds

/-- The locals of a source of rows, and what is planned with them in its frame. -/
theorem sourceLocals (kind : FrameKind) (asAlias atAlias byAlias : Option Alias) {name name' : Identifier}
    (hname : name' = name) (location : Location)
    {k l : Nat → Declaration → Option Declaration → Option Declaration → Build β}
    (hk : ∀ n a a' t t' b b', a.uncased = a'.uncased → t.map Declaration.uncased = t'.map Declaration.uncased →
      b.map Declaration.uncased = b'.map Declaration.uncased → Alike g (k n a t b) (l n a' t' b')) :
    Alike g
      (do
        let scope ← Logical.openFrame kind
        let asDecl ← Logical.declareOr asAlias name location
        let atDecl ← Logical.declareOption atAlias
        let byDecl ← Logical.declareOption byAlias
        k scope asDecl atDecl byDecl)
      (do
        let scope ← Logical.openFrame kind
        let asDecl ← Logical.declareOr (asAlias.map Alias.uncased) name' location
        let atDecl ← Logical.declareOption (atAlias.map Alias.uncased)
        let byDecl ← Logical.declareOption (byAlias.map Alias.uncased)
        l scope asDecl atDecl byDecl) := by
  subst hname
  refine (openFrame kind).bind fun n m hn => ?_
  obtain rfl : n = m := hn
  exact (declareOr asAlias _ location).bind fun _ _ ha => (declareOption atAlias).bind fun _ _ ht =>
    (declareOption byAlias).bind fun _ _ hb => hk _ _ _ _ _ _ _ ha ht hb

end Alike

/-! ## Operators added to a block -/

/-- The AS local of a FROM item, made bare. -/
def SourceAlias.uncased (a : SourceAlias) : SourceAlias := ⟨a.decl.uncased, a.scope⟩

/-- The locals of a grouping, made bare, and so the declarations in its keys. -/
def Grouping.uncased (g : Grouping) : Grouping :=
  ⟨Plan.mapDeclsNamed Declaration.uncased g.keys, g.groupAs.map Declaration.uncased⟩

section Operators

variable (rows : Relation Reference)

theorem mapDecls_addFilter (f : Declaration → Declaration) (p : Option (Plan.Expr Reference)) :
    (addFilter p rows).mapDecls f = addFilter (Plan.mapDeclsOption f p) (rows.mapDecls f) := by cases p <;> rfl

theorem mapDecls_addOffset (f : Declaration → Declaration) (n : Option (Plan.Expr Reference)) :
    (addOffset n rows).mapDecls f = addOffset (Plan.mapDeclsOption f n) (rows.mapDecls f) := by cases n <;> rfl

theorem mapDecls_addLimit (f : Declaration → Declaration) (n : Option (Plan.Expr Reference)) :
    (addLimit n rows).mapDecls f = addLimit (Plan.mapDeclsOption f n) (rows.mapDecls f) := by cases n <;> rfl

theorem mapDecls_addSort (f : Declaration → Declaration) : ∀ keys : List (Plan.SortKey Reference),
    (addSort keys rows).mapDecls f = addSort (Plan.mapDeclsSortKeys f keys) (rows.mapDecls f)
  | [] => rfl
  | ⟨_, _, _⟩ :: _ => rfl

theorem mapDecls_addLets (f : Declaration → Declaration) : ∀ bindings : List (Plan.Named Reference),
    (addLets bindings rows).mapDecls f = addLets (Plan.mapDeclsNamed f bindings) (rows.mapDecls f)
  | [] => rfl
  | ⟨_, _⟩ :: _ => rfl

theorem mapDecls_addGroup (grouping : Option Grouping) : (addGroup grouping rows).mapDecls Declaration.uncased =
    addGroup (grouping.map Grouping.uncased) (rows.mapDecls Declaration.uncased) := by
  cases grouping <;> rfl

theorem mapDecls_nameAll (f : Declaration → Declaration) : ∀ (exprs : List (Plan.Expr Reference))
    (decls : List Declaration),
    Plan.mapDeclsNamed f (nameAll exprs decls) = nameAll (Plan.mapDeclsList f exprs) (decls.map f)
  | [], _ => rfl
  | _ :: _, [] => rfl
  | x :: exprs, d :: decls => congrArg (Plan.Named.mk (x.mapDecls f) (f d) :: ·) (mapDecls_nameAll f exprs decls)

theorem Grouping.decls_uncased (g : Grouping) : g.uncased.decls = g.decls.map Declaration.uncased := by
  simp only [Grouping.decls, Grouping.uncased, Plan.mapDeclsNamed_decl, List.map_append, Option.toList_map]

/-- `SELECT *` declares nothing and reads its locals by their texts. -/
theorem star_uncased (aliases : List SourceAlias) (grouping : Option Grouping) (scope : Nat) :
    star (aliases.map SourceAlias.uncased) (grouping.map Grouping.uncased) scope = star aliases grouping scope := by
  cases grouping with
  | none =>
    show Plan.Projection.struct (List.map _ (aliases.map _)) = _
    rw [List.map_map]
    rfl
  | some g =>
    show Plan.Projection.struct (List.map _ g.uncased.decls) = _
    rw [Grouping.decls_uncased, List.map_map]
    rfl

end Operators

theorem fieldName_uncased (asAlias : Option Alias) (e : Syntax.Expr) (ordinal : Nat) :
    fieldName (asAlias.map Alias.uncased) (e.mapAliases Alias.uncased) ordinal = fieldName asAlias e ordinal := by
  cases asAlias with
  | none => exact e.impliedField_mapAliases _ ordinal
  | some a => rfl

/-! ## Expressions and blocks -/

section

open Syntax (mapAliasesList mapAliasesOption mapAliasesSteps mapAliasesBranches mapAliasesFields mapAliasesSource
  mapAliasesLets mapAliasesGroup mapAliasesKeys mapAliasesOrder mapAliasesItems)

mutual

theorem planExpr_alike : ∀ (role : Role) (e : Syntax.Expr),
    Alike (Plan.Expr.mapDecls Declaration.uncased) (planExpr role e) (planExpr role (e.mapAliases Alias.uncased))
  | _, .lit _ => .pure rfl
  | role, .var v => (Alike.reference v role).map fun _ _ h => congrArg Plan.Expr.var h
  | _, .path root steps => (planExpr_alike .expression root).bind fun _ _ hr =>
    (planSteps_alike steps).map fun _ _ hs => congrArg₂ Plan.Expr.path hr hs
  | _, .unary op operand => (planExpr_alike .expression operand).map fun _ _ h => congrArg (Plan.Expr.unary op) h
  | _, .binary op lhs rhs => (planExpr_alike .expression lhs).bind fun _ _ hl =>
    (planExpr_alike .expression rhs).map fun _ _ hr => congrArg₂ (Plan.Expr.binary op) hl hr
  | _, .call name args => (planExprs_alike args).map fun _ _ h => congrArg (Plan.Expr.call name) h
  | _, .callAgg name quantifier arg =>
    (planExpr_alike .expression arg).map fun _ _ h => congrArg (Plan.Expr.callAgg name quantifier) h
  | _, .case operand branches otherwise => (planOption_alike operand).bind fun _ _ ho =>
    (planBranches_alike branches).bind fun _ _ hb => (planOption_alike otherwise).map fun _ _ he => by
      show Plan.Expr.case _ _ _ = Plan.Expr.case _ _ _
      rw [ho, hb, he]
  | _, .collection kind values => (planExprs_alike values).map fun _ _ h => congrArg (Plan.Expr.collection kind) h
  | _, .struct fields => (planFields_alike fields).map fun _ _ h => congrArg Plan.Expr.struct h
  | _, .cast value asType => (planExpr_alike .expression value).map fun _ _ h => congrArg (Plan.Expr.cast · asType) h
  | _, .select block => (planSelect_alike block).map fun _ _ h => congrArg Plan.Expr.query h
  | _, .bagOp op quantifier left right => (planExpr_alike .expression left).bind fun _ _ hl =>
    (planExpr_alike .expression right).map fun _ _ hr =>
      congrArg₂ (fun l r => Plan.Expr.query (.of (.setOp op quantifier l r))) hl hr

theorem planExprs_alike : ∀ es : List Syntax.Expr,
    Alike (Plan.mapDeclsList Declaration.uncased) (planExprs es) (planExprs (mapAliasesList Alias.uncased es))
  | [] => .pure rfl
  | e :: es => (planExpr_alike .expression e).bind fun _ _ h => (planExprs_alike es).map fun _ _ hs =>
    congrArg₂ List.cons h hs

theorem planOption_alike : ∀ e : Option Syntax.Expr,
    Alike (Plan.mapDeclsOption Declaration.uncased) (planOption e) (planOption (mapAliasesOption Alias.uncased e))
  | none => .pure rfl
  | some e => (planExpr_alike .expression e).map fun _ _ h => congrArg some h

theorem planSteps_alike : ∀ steps : List Syntax.PathStep,
    Alike (Plan.mapDeclsSteps Declaration.uncased) (planSteps steps) (planSteps (mapAliasesSteps Alias.uncased steps))
  | [] => .pure rfl
  | .field _ :: steps => (planSteps_alike steps).map fun _ _ hs => congrArg (_ :: ·) hs
  | .index key :: steps => (planExpr_alike .expression key).bind fun _ _ h => (planSteps_alike steps).map fun _ _ hs =>
    congrArg₂ (Plan.PathStep.key · .sensitive :: ·) h hs
  | .wildcard :: steps => (planSteps_alike steps).map fun _ _ hs => congrArg (_ :: ·) hs
  | .unpivot :: steps => (planSteps_alike steps).map fun _ _ hs => congrArg (_ :: ·) hs

theorem planBranches_alike : ∀ branches : List Syntax.CaseBranch,
    Alike (Plan.mapDeclsBranches Declaration.uncased) (planBranches branches)
      (planBranches (mapAliasesBranches Alias.uncased branches))
  | [] => .pure rfl
  | ⟨condition, result⟩ :: branches => (planExpr_alike .expression condition).bind fun _ _ hc =>
    (planExpr_alike .expression result).bind fun _ _ hr => (planBranches_alike branches).map fun _ _ hs =>
      congrArg₂ List.cons (congrArg₂ Plan.CaseBranch.mk hc hr) hs

theorem planFields_alike : ∀ fields : List Syntax.StructField,
    Alike (Plan.mapDeclsFields Declaration.uncased) (planFields fields)
      (planFields (mapAliasesFields Alias.uncased fields))
  | [] => .pure rfl
  | ⟨key, value⟩ :: fields => (planExpr_alike .expression key).bind fun _ _ hk =>
    (planExpr_alike .expression value).bind fun _ _ hv => (planFields_alike fields).map fun _ _ hs =>
      congrArg₂ List.cons (congrArg₂ Plan.StructField.mk hk hv) hs

theorem planSelect_alike : ∀ block : Syntax.Select,
    Alike (Relation.mapDecls Declaration.uncased) (planSelect block) (planSelect (block.mapAliases Alias.uncased))
  | ⟨_, projection, source, lets, filter, groupBy, having, orderBy, limit, offset⟩ =>
    .inFrame .query <| (planSource_alike source).bind fun ⟨_, _⟩ ⟨_, _⟩ hsource =>
      (planLets_alike lets).bind fun _ _ hlets => (planOption_alike filter).bind fun _ _ hfilter =>
      (planGroup_alike groupBy).bind fun _ _ hgroup => (planOption_alike having).bind fun _ _ hhaving =>
      (planOrder_alike orderBy).bind fun _ _ horder => (planOption_alike offset).bind fun _ _ hoffset =>
      (planOption_alike limit).bind fun _ _ hlimit =>
      (planProjection_alike (Prod.mk.inj hsource).2 hgroup projection).map fun _ _ hprojection => by
        -- the operators stand around the rows one by one, and the change goes through each of them
        show Relation.of (.project (Relation.mapDecls _ _) _ _) = Relation.of (.project (Relation.mapDecls _ _) _ _)
        rw [mapDecls_addLimit, mapDecls_addOffset, mapDecls_addSort, mapDecls_addFilter, mapDecls_addGroup,
          mapDecls_addFilter, mapDecls_addLets, (Prod.mk.inj hsource).1, hlets, hfilter, hgroup, hhaving, horder,
          hoffset, hlimit, hprojection, mapDecls_addLimit, mapDecls_addOffset, mapDecls_addSort, mapDecls_addFilter,
          mapDecls_addGroup, mapDecls_addFilter, mapDecls_addLets]

theorem planSource_alike : ∀ source : Option Syntax.FromSource,
    Alike (Prod.map (Relation.mapDecls Declaration.uncased) (List.map SourceAlias.uncased)) (planSource source)
      (planSource (mapAliasesSource Alias.uncased source))
  | none => .pure rfl
  | some source => planFrom_alike 0 source

theorem planFrom_alike : ∀ (before : Nat) (source : Syntax.FromSource),
    Alike (Prod.map (Relation.mapDecls Declaration.uncased) (List.map SourceAlias.uncased)) (planFrom before source)
      (planFrom before (source.mapAliases Alias.uncased))
  | before, .scan ⟨expr, asAlias, atAlias, byAlias, location⟩ => (planExpr_alike .fromSource expr).bind fun _ _ he =>
    .sourceLocals .fromItem asAlias atAlias byAlias (expr.impliedAlias_mapAliases _ (before + 1)) location
      fun n _ _ _ _ _ _ ha ht hb => .pure <| Prod.ext
        (by
          show Relation.of (.scan _ _ _ _) = Relation.of (.scan _ _ _ _)
          rw [he, ha, ht, hb])
        (congrArg (fun d => [SourceAlias.mk d n]) ha)
  | before, .unpivot ⟨expr, asAlias, atAlias, byAlias, location⟩ => (planExpr_alike .fromSource expr).bind fun _ _ he =>
    .sourceLocals .fromItem asAlias atAlias byAlias (expr.impliedAlias_mapAliases _ (before + 1)) location
      fun n _ _ _ _ _ _ ha ht hb => .pure <| Prod.ext
        (by
          show Relation.of (.unpivot _ _ _ _) = Relation.of (.unpivot _ _ _ _)
          rw [he, ha, ht, hb])
        (congrArg (fun d => [SourceAlias.mk d n]) ha)
  | before, .join kind left right predicate => (planFrom_alike before left).bind fun ⟨_, ls⟩ ⟨_, ls'⟩ hl => by
    obtain ⟨hl, hls⟩ := Prod.mk.inj hl
    -- as many items stand to the left of the right side
    have hn : ls.length = ls'.length := by simpa only [List.length_map] using congrArg List.length hls
    dsimp only
    rw [hn]
    refine (planFrom_alike _ right).bind fun ⟨_, _⟩ ⟨_, _⟩ hr => (planOption_alike predicate).map fun _ _ hp => ?_
    obtain ⟨hr, hrs⟩ := Prod.mk.inj hr
    show (Relation.of (.join kind _ _ _), List.map _ (_ ++ _)) = (Relation.of (.join kind _ _ _), List.map _ (_ ++ _))
    rw [hl, hr, hp, List.map_append, List.map_append, hls, hrs]

theorem planLets_alike : ∀ lets : List Syntax.LetBinding,
    Alike (Plan.mapDeclsNamed Declaration.uncased) (planLets lets) (planLets (mapAliasesLets Alias.uncased lets))
  | [] => .pure rfl
  | ⟨expr, asAlias⟩ :: lets => (planExpr_alike .expression expr).bind fun _ _ he => (Alike.openFrame .letBinding).bind
    fun _ _ _ => (Alike.declareAlias asAlias).bind fun _ _ hd => (planLets_alike lets).map fun _ _ hs =>
      congrArg₂ List.cons (congrArg₂ Plan.Named.mk he hd) hs

theorem planGroup_alike : ∀ groupBy : Option Syntax.GroupBy,
    Alike (Option.map Grouping.uncased) (planGroup groupBy) (planGroup (mapAliasesGroup Alias.uncased groupBy))
  | none => .pure rfl
  | some ⟨keys, groupAs⟩ => (planKeys_alike keys).bind fun _ _ hk => (Alike.openFrame .groupBy).bind fun _ _ _ =>
    (Alike.declareKeys 1 keys).bind fun _ _ hd => (Alike.declareOption groupAs).map fun _ _ hg => by
      show some (Grouping.mk (Plan.mapDeclsNamed _ _) _) = some (Grouping.mk (Plan.mapDeclsNamed _ _) _)
      rw [mapDecls_nameAll, mapDecls_nameAll, hk, hd, hg]

theorem planKeys_alike : ∀ keys : List Syntax.GroupKey,
    Alike (Plan.mapDeclsList Declaration.uncased) (planKeys keys) (planKeys (mapAliasesKeys Alias.uncased keys))
  | [] => .pure rfl
  | ⟨expr, _, _⟩ :: keys => (planExpr_alike .expression expr).bind fun _ _ h => (planKeys_alike keys).map fun _ _ hs =>
    congrArg₂ List.cons h hs

theorem planOrder_alike : ∀ items : List Syntax.OrderItem,
    Alike (Plan.mapDeclsSortKeys Declaration.uncased) (planOrder items)
      (planOrder (mapAliasesOrder Alias.uncased items))
  | [] => .pure rfl
  | ⟨expr, order, nulls⟩ :: items => (planExpr_alike .expression expr).bind fun _ _ h =>
    (planOrder_alike items).map fun _ _ hs => congrArg₂ (Plan.SortKey.mk · order nulls :: ·) h hs

theorem planProjection_alike {aliases aliases' : List SourceAlias} {grouping grouping' : Option Grouping}
    (ha : aliases.map SourceAlias.uncased = aliases'.map SourceAlias.uncased)
    (hg : grouping.map Grouping.uncased = grouping'.map Grouping.uncased) : ∀ projection : Syntax.Projection,
    Alike (Plan.Projection.mapDecls Declaration.uncased) (planProjection aliases grouping projection)
      (planProjection aliases' grouping' (projection.mapAliases Alias.uncased))
  | .star => Alike.currentScope.map fun a b h => by
    obtain rfl : a = b := h
    rw [← star_uncased aliases, ha, hg, star_uncased]
  | .list items => (planItems_alike 1 items).map fun _ _ h => congrArg Plan.Projection.struct h
  | .value expr => (planExpr_alike .expression expr).map fun _ _ h => congrArg Plan.Projection.value h
  | .pivot value key => (planExpr_alike .expression value).bind fun _ _ hv =>
    (planExpr_alike .expression key).map fun _ _ hk => congrArg₂ Plan.Projection.pivot hv hk

theorem planItems_alike : ∀ (ordinal : Nat) (items : List Syntax.SelectItem),
    Alike (Plan.mapDeclsItems Declaration.uncased) (planItems ordinal items)
      (planItems ordinal (mapAliasesItems Alias.uncased items))
  | _, [] => .pure rfl
  | ordinal, .expr expr asAlias :: items => (planExpr_alike .expression expr).bind fun _ _ h =>
    (planItems_alike (ordinal + 1) items).map fun _ _ hs => congrArg₂ List.cons
      (congrArg₂ Plan.ProjectItem.expr h (fieldName_uncased asAlias expr ordinal).symm) hs
  | ordinal, .all expr :: items => (planExpr_alike .expression expr).bind fun _ _ h =>
    (planItems_alike (ordinal + 1) items).map fun _ _ hs => congrArg₂ (Plan.ProjectItem.all · :: ·) h hs

end

end

/-! ## Mutations -/

def MutationRows.uncased (r : MutationRows) : MutationRows :=
  { r with rowDecl := r.rowDecl.uncased, rows := r.rows.mapDecls Declaration.uncased }

def RowEdit.uncased (edit : RowEdit) : RowEdit :=
  { edit with
    keys := Plan.mapDeclsList Declaration.uncased edit.keys
    value := Plan.mapDeclsOption Declaration.uncased edit.value }

theorem mutation_alike (action : Plan.Action) (target : Syntax.Var) {rows rows' : Plan.Expr Reference}
    (h : rows.mapDecls Declaration.uncased = rows'.mapDecls Declaration.uncased) :
    Alike (Plan.Mutation.mapDecls Declaration.uncased) (mutation action target rows) (mutation action target rows') :=
  (Alike.reference target .dmlTarget).map fun _ _ ht => congrArg₂ (Plan.Mutation.mk action) ht h

theorem planRows_alike (source : Syntax.MutationSource) :
    Alike MutationRows.uncased (planRows source) (planRows (source.mapAliases Alias.uncased)) :=
  (Alike.reference source.target .fromSource).bind fun _ _ htarget =>
    .sourceLocals .dmlSource source.asAlias source.atAlias source.byAlias rfl source.target.location
      fun n _ _ _ _ _ _ ha ht hb => (planOption_alike source.filter).map fun _ _ hf => by
        refine congrArg₂ (MutationRows.mk source.target · n ·) ha ?_
        rw [mapDecls_addFilter, mapDecls_addFilter, hf]
        show addFilter _ (.of (.scan (.var (id _)) _ _ _)) = addFilter _ (.of (.scan (.var (id _)) _ _ _))
        rw [htarget, ha, ht, hb]

theorem planRowSteps_alike : ∀ steps : List Syntax.RowStep,
    Alike (Plan.mapDeclsList Declaration.uncased) (planRowSteps steps)
      (planRowSteps (Syntax.mapAliasesRowSteps Alias.uncased steps))
  | [] => .pure rfl
  | .field name :: steps => (planRowSteps_alike steps).map fun _ _ hs => congrArg (Plan.Expr.string name.text :: ·) hs
  | .index key :: steps => (planExpr_alike .expression key).bind fun _ _ h => (planRowSteps_alike steps).map
    fun _ _ hs => congrArg₂ List.cons h hs

/-! ### Parts that go by the rows and the edits -/

theorem rootKeys_uncased (rows : Option MutationRows) (root : Syntax.Var) :
    rootKeys (rows.map MutationRows.uncased) root = rootKeys rows root := by cases rows <;> rfl

theorem RowEdit.mapDecls_apply (edit : RowEdit) (row : Plan.Expr Reference) :
    (edit.apply row).mapDecls Declaration.uncased = edit.uncased.apply (row.mapDecls Declaration.uncased) := by
  obtain ⟨_, _, value⟩ := edit
  cases value <;> rfl

theorem RowEdit.mapDecls_foldl : ∀ (edits : List RowEdit) (row : Plan.Expr Reference),
    (edits.foldl (fun row edit => edit.apply row) row).mapDecls Declaration.uncased =
      (edits.map RowEdit.uncased).foldl (fun row edit => edit.apply row) (row.mapDecls Declaration.uncased)
  | [], _ => rfl
  | edit :: edits, row => by
    rw [List.map_cons, List.foldl_cons, List.foldl_cons, RowEdit.mapDecls_foldl edits, RowEdit.mapDecls_apply]

theorem mapDecls_insertedValue (rows : Option MutationRows) (value : Plan.Expr Reference) :
    (insertedValue rows value).mapDecls Declaration.uncased =
      insertedValue (rows.map MutationRows.uncased) (value.mapDecls Declaration.uncased) := by cases rows <;> rfl

theorem updateEach_alike {edits edits' : List RowEdit} (h : edits.map RowEdit.uncased = edits'.map RowEdit.uncased) :
    Alike (List.map (Plan.Mutation.mapDecls Declaration.uncased)) (updateEach edits) (updateEach edits') := by
  induction edits generalizing edits' with
  | nil =>
    obtain rfl : edits' = [] := List.map_eq_nil_iff.1 h.symm
    exact .pure rfl
  | cons edit edits ih =>
    obtain ⟨edit', edits', rfl, he, hs⟩ := List.map_eq_cons_iff.1 h.symm
    have hroot : edit'.root = edit.root := (congrArg RowEdit.root he :)
    show Alike _ (mutation .update edit.root .emptyBag >>= _) (mutation .update edit'.root .emptyBag >>= _)
    rw [hroot]
    exact (mutation_alike .update edit.root rfl).bind fun _ _ hm => (ih hs.symm).map fun _ _ hms =>
      congrArg₂ List.cons hm hms

theorem insertPerRow_alike {r r' : MutationRows} (h : r.uncased = r'.uncased) (values : Syntax.Expr) :
    Alike (Plan.Expr.mapDecls Declaration.uncased) (insertPerRow r values)
      (insertPerRow r' (values.mapAliases Alias.uncased)) := by
  have hlocation : r.rowDecl.location = r'.rowDecl.location :=
    (congrArg (fun u : MutationRows => u.rowDecl.location) h :)
  have hrows : r.rows.mapDecls Declaration.uncased = r'.rows.mapDecls Declaration.uncased :=
    congrArg MutationRows.rows h
  unfold insertPerRow
  rw [Syntax.Expr.firstVar?_mapAliases, Syntax.Expr.impliedAlias_mapAliases, hlocation]
  refine (planExpr_alike .expression values).bind fun _ _ hv => .inFrame .fromItem ((Alike.declare _ rfl).bind
    fun a b hd => Alike.currentScope.map fun n m hn => ?_)
  obtain rfl : n = m := hn
  show Plan.Expr.query (.of (.project (.of (.join .cross _ (.of (.scan _ _ none none)) none))
      (.value (.var (a.uncased.reference n))) .all)) =
    Plan.Expr.query (.of (.project (.of (.join .cross _ (.of (.scan _ _ none none)) none))
      (.value (.var (b.uncased.reference n))) .all))
  rw [hrows, hv, hd]

/-- One mutation after the updates that stand before it, and before the rest of the batch. -/
theorem flushed_alike {x y rest rest' : Build (List (Plan.Mutation Reference))} {d d' : Build (Plan.Mutation Reference)}
    (hx : Alike (List.map (Plan.Mutation.mapDecls Declaration.uncased)) x y)
    (hd : Alike (Plan.Mutation.mapDecls Declaration.uncased) d d')
    (hrest : Alike (List.map (Plan.Mutation.mapDecls Declaration.uncased)) rest rest') :
    Alike (List.map (Plan.Mutation.mapDecls Declaration.uncased))
      (do return (← x) ++ (← d) :: (← rest)) (do return (← y) ++ (← d') :: (← rest')) :=
  hx.bind fun _ _ hu => hd.bind fun _ _ hm => hrest.map fun _ _ hs => by
    rw [List.map_append, List.map_append, List.map_cons, List.map_cons, hu, hm, hs]

section

variable {rows rows' : Option MutationRows} (h : rows.map MutationRows.uncased = rows'.map MutationRows.uncased)

include h

theorem planEdit_alike (path : Syntax.RowPath) (value : Option Syntax.Expr) :
    Alike RowEdit.uncased (planEdit rows path value)
      (planEdit rows' (path.mapAliases Alias.uncased) (Syntax.mapAliasesOption Alias.uncased value)) :=
  (planRowSteps_alike path.steps).bind fun _ _ hk => (planOption_alike value).map fun _ _ hv => by
    refine congrArg₂ (RowEdit.mk path.root) ?_ hv
    show Plan.mapDeclsList _ (rootKeys rows path.root ++ _) = Plan.mapDeclsList _ (rootKeys rows' path.root ++ _)
    rw [← rootKeys_uncased rows, h, rootKeys_uncased, Plan.mapDeclsList_append, Plan.mapDeclsList_append, hk]

theorem planAssignments_alike : ∀ assignments : List Syntax.Assignment,
    Alike (List.map RowEdit.uncased) (planAssignments rows assignments)
      (planAssignments rows' (assignments.map (Syntax.Assignment.mapAliases Alias.uncased)))
  | [] => .pure rfl
  | ⟨target, value⟩ :: rest => (planEdit_alike h target (some value)).bind fun _ _ he =>
    (planAssignments_alike rest).map fun _ _ hs => congrArg₂ List.cons he hs

theorem flush_alike {edits edits' : List RowEdit} (he : edits.map RowEdit.uncased = edits'.map RowEdit.uncased) :
    Alike (List.map (Plan.Mutation.mapDecls Declaration.uncased)) (flush rows edits) (flush rows' edits') := by
  have hempty : edits.isEmpty = edits'.isEmpty := by
    rw [← List.isEmpty_map (f := RowEdit.uncased), he, List.isEmpty_map]
  unfold flush
  rw [hempty]
  split
  · exact .pure rfl
  · cases rows with
    | none =>
      obtain rfl : rows' = none := Option.map_eq_none_iff.1 h.symm
      exact updateEach_alike he
    | some r =>
      obtain ⟨r', rfl, hr⟩ := Option.map_eq_some_iff.1 h.symm
      show Alike _ (mutation .update r.target _ >>= _) (mutation .update r'.target _ >>= _)
      rw [show r.target = r'.target from (congrArg MutationRows.target hr.symm :)]
      refine (mutation_alike .update r'.target ?_).map fun _ _ hm => congrArg ([·]) hm
      show r.uncased.selectValue (Plan.Expr.mapDecls _ _) = r'.uncased.selectValue (Plan.Expr.mapDecls _ _)
      rw [RowEdit.mapDecls_foldl, RowEdit.mapDecls_foldl, he]
      show r.uncased.selectValue (List.foldl _ r.uncased.row _) = r'.uncased.selectValue (List.foldl _ r'.uncased.row _)
      rw [hr]

theorem planInserted_alike (values : Syntax.Expr) : Alike (Plan.Expr.mapDecls Declaration.uncased)
    (planInserted rows values) (planInserted rows' (values.mapAliases Alias.uncased)) := by
  cases rows with
  | none =>
    obtain rfl : rows' = none := Option.map_eq_none_iff.1 h.symm
    exact planExpr_alike .expression values
  | some r =>
    obtain ⟨r', rfl, hr⟩ := Option.map_eq_some_iff.1 h.symm
    exact insertPerRow_alike hr.symm values

/-- Whether a path without steps removes rows goes by the text of the alias. -/
theorem planOps_alike (ops : List Syntax.MutationOp) {edits edits' : List RowEdit}
    (he : edits.map RowEdit.uncased = edits'.map RowEdit.uncased) :
    Alike (List.map (Plan.Mutation.mapDecls Declaration.uncased)) (planOps rows edits ops)
      (planOps rows' edits' (ops.map (Syntax.MutationOp.mapAliases Alias.uncased))) := by
  induction ops generalizing edits edits' with
  | nil => exact flush_alike h he
  | cons op ops ih =>
    cases op with
    | set assignments =>
      exact (planAssignments_alike h assignments).bind fun _ _ hs => ih (by
        rw [List.map_append, List.map_append, he, hs])
    | insert target values =>
      exact flushed_alike (flush_alike h he) ((planInserted_alike h values).bind fun _ _ hi =>
        mutation_alike .insert target hi) (ih rfl)
    | insertValue target value onConflict =>
      refine flushed_alike (flush_alike h he) ((planExpr_alike .expression value).bind fun _ _ hv =>
        mutation_alike (conflictAction onConflict) target ?_) (ih rfl)
      rw [mapDecls_insertedValue, mapDecls_insertedValue, h, hv]
    | remove path =>
      have hedit : Alike (List.map (Plan.Mutation.mapDecls Declaration.uncased))
          (planEdit rows path none >>= fun edit => planOps rows (edits ++ [edit]) ops)
          (planEdit rows' (path.mapAliases Alias.uncased) none >>= fun edit => planOps rows' (edits' ++ [edit])
            (ops.map (Syntax.MutationOp.mapAliases Alias.uncased))) :=
        (planEdit_alike h path none).bind fun _ _ hd => ih (by
          rw [List.map_append, List.map_append, he, List.map_singleton, List.map_singleton, hd])
      have hempty : (path.mapAliases Alias.uncased).steps.isEmpty = path.steps.isEmpty := by
        obtain ⟨_, _ | ⟨_ | _, _⟩⟩ := path <;> rfl
      rw [List.map_cons, Syntax.MutationOp.mapAliases]
      unfold planOps
      rw [hempty]
      split
      · cases rows with
        | none =>
          obtain rfl : rows' = none := Option.map_eq_none_iff.1 h.symm
          exact flushed_alike (flush_alike h he) (mutation_alike .delete path.root rfl) (ih rfl)
        | some r =>
          obtain ⟨r', rfl, hr⟩ := Option.map_eq_some_iff.1 h.symm
          have hrow : r'.isRow (path.mapAliases Alias.uncased).root = r.isRow path.root :=
            (congrArg (fun u : MutationRows => u.isRow path.root) hr :)
          have hselect : (r.selectValue r.row).mapDecls Declaration.uncased =
              (r'.selectValue r'.row).mapDecls Declaration.uncased :=
            congrArg (fun u : MutationRows => u.selectValue u.row) hr.symm
          dsimp only
          rw [hrow, show r'.target = r.target from (congrArg MutationRows.target hr :)]
          split
          · exact flushed_alike (flush_alike h he) (mutation_alike .delete r.target hselect) (ih rfl)
          · exact hedit
      · exact hedit

end

theorem planMutation_alike (m : Syntax.Mutation) :
    Alike (List.map (Plan.Mutation.mapDecls Declaration.uncased)) (planMutation m)
      (planMutation (m.mapAliases Alias.uncased)) := by
  refine .inFrame .query ((?_ : Alike (Option.map MutationRows.uncased) _ _).bind fun _ _ h =>
    planOps_alike h m.operations rfl)
  show Alike _ (planRowsOption m.source) (planRowsOption (m.source.map _))
  cases m.source with
  | none => exact .pure rfl
  | some source => exact (planRows_alike source).map fun _ _ h => congrArg some h

/-! ## Statements -/

theorem planStatement_alike : ∀ s : Syntax.Statement,
    Alike (Plan.Statement.mapDecls Declaration.uncased) (planStatement s)
      (planStatement (s.mapAliases Alias.uncased))
  | .query expr => (planExpr_alike .expression expr).map fun _ _ h => congrArg Plan.Statement.query h
  | .dml m => (planMutation_alike m).map fun _ _ h => congrArg Plan.Statement.dml h
  | .exec procedure args => (planExprs_alike args).map fun _ _ h => congrArg (Plan.Statement.exec procedure) h

end Logical

end NestedQuery
