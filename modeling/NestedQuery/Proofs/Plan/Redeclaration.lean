/-
Changes of declarations against the passes over a plan. Replacing what the variables carry and choosing strategies leave
declarations alone, so it makes no difference whether declarations are changed before or after.
-/
import NestedQuery.Plan.MapVars
import NestedQuery.Plan.Strategies
import NestedQuery.Proofs.Plan.Embedding

namespace NestedQuery

namespace Plan

variable {V W : Type}

/-- The program `y` does what `x` does, and its result is that of `x` up to `g`. -/
def Tracks {σ α β : Type} (g : α → β) (x : StateM σ α) (y : StateM σ β) : Prop :=
  ∀ s, y.run s = (g (x.run s).1, (x.run s).2)

namespace Tracks

variable {σ α β γ δ : Type} {f : α → β} {g : γ → δ} {x : StateM σ α} {y : StateM σ β}

theorem refl (x : StateM σ α) : Tracks id x x := fun _ => rfl

theorem pure {a : α} {b : β} (h : b = f a) : Tracks f (Pure.pure a : StateM σ α) (Pure.pure b) := fun _ => h ▸ rfl

theorem bind {k : α → StateM σ γ} {l : β → StateM σ δ} (hx : Tracks f x y) (hk : ∀ a, Tracks g (k a) (l (f a))) :
    Tracks g (x >>= k) (y >>= l) := by
  intro s
  show (l (y.run s).1).run (y.run s).2 = _
  rw [hx s]
  exact hk (x.run s).1 (x.run s).2

theorem map {k : α → γ} {l : β → δ} (hx : Tracks f x y) (hk : ∀ a, l (f a) = g (k a)) :
    Tracks g (x >>= fun a => Pure.pure (k a)) (y >>= fun b => Pure.pure (l b)) :=
  hx.bind fun a => .pure (hk a)

end Tracks

/-! ## Statements -/

def Mutation.mapDecls (f : Declaration → Declaration) (m : Mutation V) : Mutation V :=
  { m with rows := m.rows.mapDecls f }

def Command.mapDecls (f : Declaration → Declaration) (c : Command V) : Command V :=
  { c with rows := c.rows.mapDecls f }

/-- Applies `f` to every declaration of a statement. -/
def Statement.mapDecls (f : Declaration → Declaration) : Statement V → Statement V
  | .query expr => .query (expr.mapDecls f)
  | .dml mutations => .dml (mutations.map (Mutation.mapDecls f))
  | .dmlCommands commands => .dmlCommands (commands.map (Command.mapDecls f))
  | .exec procedure args => .exec procedure (mapDeclsList f args)

theorem mapDeclsList_append (f : Declaration → Declaration) : ∀ xs ys : List (Expr V),
    mapDeclsList f (xs ++ ys) = mapDeclsList f xs ++ mapDeclsList f ys
  | [], _ => rfl
  | x :: xs, ys => congrArg (x.mapDecls f :: ·) (mapDeclsList_append f xs ys)

/-! ## Replacement of variables -/

section

variable {σ : Type} (f : Declaration → Declaration) (r : V → StateM σ W)

mutual

theorem Expr.tracks_mapVarsM : ∀ e : Expr V,
    Tracks (Expr.mapDecls f) (e.mapVarsM r) ((e.mapDecls f).mapVarsM r)
  | .lit _ => .pure rfl
  | .var _ => (Tracks.refl _).map fun _ => rfl
  | .path root steps => root.tracks_mapVarsM.bind fun _ => (tracks_mapVarsSteps steps).map fun _ => rfl
  | .unary _ operand => operand.tracks_mapVarsM.map fun _ => rfl
  | .binary _ lhs rhs => lhs.tracks_mapVarsM.bind fun _ => rhs.tracks_mapVarsM.map fun _ => rfl
  | .call _ args => (tracks_mapVarsList args).map fun _ => rfl
  | .callAgg _ _ arg => arg.tracks_mapVarsM.map fun _ => rfl
  | .case operand branches otherwise => (tracks_mapVarsOption operand).bind fun _ =>
    (tracks_mapVarsBranches branches).bind fun _ => (tracks_mapVarsOption otherwise).map fun _ => rfl
  | .collection _ values => (tracks_mapVarsList values).map fun _ => rfl
  | .struct fields => (tracks_mapVarsFields fields).map fun _ => rfl
  | .cast value _ => value.tracks_mapVarsM.map fun _ => rfl
  | .query relation => relation.tracks_mapVarsM.map fun _ => rfl

theorem tracks_mapVarsList : ∀ es : List (Expr V),
    Tracks (mapDeclsList f) (mapVarsList r es) (mapVarsList r (mapDeclsList f es))
  | [] => .pure rfl
  | e :: es => e.tracks_mapVarsM.bind fun _ => (tracks_mapVarsList es).map fun _ => rfl

theorem tracks_mapVarsOption : ∀ e : Option (Expr V),
    Tracks (mapDeclsOption f) (mapVarsOption r e) (mapVarsOption r (mapDeclsOption f e))
  | none => .pure rfl
  | some e => e.tracks_mapVarsM.map fun _ => rfl

theorem tracks_mapVarsSteps : ∀ steps : List (PathStep V),
    Tracks (mapDeclsSteps f) (mapVarsSteps r steps) (mapVarsSteps r (mapDeclsSteps f steps))
  | [] => .pure rfl
  | .key key _ :: steps => key.tracks_mapVarsM.bind fun _ => (tracks_mapVarsSteps steps).map fun _ => rfl
  | .wildcard :: steps => (tracks_mapVarsSteps steps).map fun _ => rfl
  | .unpivot :: steps => (tracks_mapVarsSteps steps).map fun _ => rfl

theorem tracks_mapVarsBranches : ∀ branches : List (CaseBranch V),
    Tracks (mapDeclsBranches f) (mapVarsBranches r branches) (mapVarsBranches r (mapDeclsBranches f branches))
  | [] => .pure rfl
  | ⟨condition, result⟩ :: branches => condition.tracks_mapVarsM.bind fun _ => result.tracks_mapVarsM.bind fun _ =>
    (tracks_mapVarsBranches branches).map fun _ => rfl

theorem tracks_mapVarsFields : ∀ fields : List (StructField V),
    Tracks (mapDeclsFields f) (mapVarsFields r fields) (mapVarsFields r (mapDeclsFields f fields))
  | [] => .pure rfl
  | ⟨key, value⟩ :: fields => key.tracks_mapVarsM.bind fun _ => value.tracks_mapVarsM.bind fun _ =>
    (tracks_mapVarsFields fields).map fun _ => rfl

theorem Relation.tracks_mapVarsM : ∀ relation : Relation V,
    Tracks (Relation.mapDecls f) (relation.mapVarsM r) ((relation.mapDecls f).mapVarsM r)
  | ⟨.unit, _⟩ => .pure rfl
  | ⟨.scan expr _ _ _, _⟩ => expr.tracks_mapVarsM.map fun _ => rfl
  | ⟨.unpivot expr _ _ _, _⟩ => expr.tracks_mapVarsM.map fun _ => rfl
  | ⟨.filter predicate source, _⟩ => source.tracks_mapVarsM.bind fun _ => predicate.tracks_mapVarsM.map fun _ => rfl
  | ⟨.join _ left right predicate, _⟩ => left.tracks_mapVarsM.bind fun _ => right.tracks_mapVarsM.bind fun _ =>
    (tracks_mapVarsOption predicate).map fun _ => rfl
  | ⟨.letting source bindings, _⟩ =>
    source.tracks_mapVarsM.bind fun _ => (tracks_mapVarsNamed bindings).map fun _ => rfl
  | ⟨.aggregate source keys _, _⟩ => source.tracks_mapVarsM.bind fun _ => (tracks_mapVarsNamed keys).map fun _ => rfl
  | ⟨.sort source keys, _⟩ => source.tracks_mapVarsM.bind fun _ => (tracks_mapVarsSortKeys keys).map fun _ => rfl
  | ⟨.offset source rowCount, _⟩ => source.tracks_mapVarsM.bind fun _ => rowCount.tracks_mapVarsM.map fun _ => rfl
  | ⟨.limit source rowCount, _⟩ => source.tracks_mapVarsM.bind fun _ => rowCount.tracks_mapVarsM.map fun _ => rfl
  | ⟨.project source projection _, _⟩ =>
    source.tracks_mapVarsM.bind fun _ => projection.tracks_mapVarsM.map fun _ => rfl
  | ⟨.setOp _ _ left right, _⟩ => left.tracks_mapVarsM.bind fun _ => right.tracks_mapVarsM.map fun _ => rfl

theorem tracks_mapVarsNamed : ∀ bindings : List (Named V),
    Tracks (mapDeclsNamed f) (mapVarsNamed r bindings) (mapVarsNamed r (mapDeclsNamed f bindings))
  | [] => .pure rfl
  | ⟨expr, _⟩ :: rest => expr.tracks_mapVarsM.bind fun _ => (tracks_mapVarsNamed rest).map fun _ => rfl

theorem tracks_mapVarsSortKeys : ∀ keys : List (SortKey V),
    Tracks (mapDeclsSortKeys f) (mapVarsSortKeys r keys) (mapVarsSortKeys r (mapDeclsSortKeys f keys))
  | [] => .pure rfl
  | ⟨expr, _, _⟩ :: rest => expr.tracks_mapVarsM.bind fun _ => (tracks_mapVarsSortKeys rest).map fun _ => rfl

theorem Projection.tracks_mapVarsM : ∀ projection : Projection V,
    Tracks (Projection.mapDecls f) (projection.mapVarsM r) ((projection.mapDecls f).mapVarsM r)
  | .value expr => expr.tracks_mapVarsM.map fun _ => rfl
  | .struct items => (tracks_mapVarsItems items).map fun _ => rfl
  | .pivot value key => value.tracks_mapVarsM.bind fun _ => key.tracks_mapVarsM.map fun _ => rfl

theorem tracks_mapVarsItems : ∀ items : List (ProjectItem V),
    Tracks (mapDeclsItems f) (mapVarsItems r items) (mapVarsItems r (mapDeclsItems f items))
  | [] => .pure rfl
  | .expr expr _ :: items => expr.tracks_mapVarsM.bind fun _ => (tracks_mapVarsItems items).map fun _ => rfl
  | .all expr :: items => expr.tracks_mapVarsM.bind fun _ => (tracks_mapVarsItems items).map fun _ => rfl

end

theorem tracks_mapVarsMutations : ∀ ms : List (Mutation V),
    Tracks (List.map (Mutation.mapDecls f)) (mapVarsMutations r ms) (mapVarsMutations r (ms.map (Mutation.mapDecls f)))
  | [] => .pure rfl
  | ⟨_, _, rows⟩ :: rest => (Tracks.refl _).bind fun _ => (rows.tracks_mapVarsM f r).bind fun _ =>
    (tracks_mapVarsMutations rest).map fun _ => rfl

theorem tracks_mapVarsCommands : ∀ cs : List (Command V),
    Tracks (List.map (Command.mapDecls f)) (mapVarsCommands r cs) (mapVarsCommands r (cs.map (Command.mapDecls f)))
  | [] => .pure rfl
  | ⟨_, _, rows⟩ :: rest => (rows.tracks_mapVarsM f r).bind fun _ => (tracks_mapVarsCommands rest).map fun _ => rfl

theorem Statement.tracks_mapVarsM : ∀ s : Statement V,
    Tracks (Statement.mapDecls f) (s.mapVarsM r) ((s.mapDecls f).mapVarsM r)
  | .query expr => (expr.tracks_mapVarsM f r).map fun _ => rfl
  | .dml mutations => (tracks_mapVarsMutations f r mutations).map fun _ => rfl
  | .dmlCommands commands => (tracks_mapVarsCommands f r commands).map fun _ => rfl
  | .exec _ args => (tracks_mapVarsList f r args).map fun _ => rfl

end

/-! ## Choice of strategies -/

section

variable (f : Declaration → Declaration) (g : Option Strategy → Option Strategy)

mutual

theorem Expr.mapStrategies_mapDecls : ∀ e : Expr V, (e.mapDecls f).mapStrategies g = (e.mapStrategies g).mapDecls f
  | .lit _ => rfl
  | .var _ => rfl
  | .path root steps => congrArg₂ Expr.path root.mapStrategies_mapDecls (mapStrategiesSteps_mapDecls steps)
  | .unary op operand => congrArg (Expr.unary op) operand.mapStrategies_mapDecls
  | .binary op lhs rhs => congrArg₂ (Expr.binary op) lhs.mapStrategies_mapDecls rhs.mapStrategies_mapDecls
  | .call name args => congrArg (Expr.call name) (mapStrategiesList_mapDecls args)
  | .callAgg name quantifier arg => congrArg (Expr.callAgg name quantifier) arg.mapStrategies_mapDecls
  | .case operand branches otherwise => by
    show Expr.case _ _ _ = Expr.case _ _ _
    rw [mapStrategiesOption_mapDecls operand, mapStrategiesBranches_mapDecls branches,
      mapStrategiesOption_mapDecls otherwise]
  | .collection kind values => congrArg (Expr.collection kind) (mapStrategiesList_mapDecls values)
  | .struct fields => congrArg Expr.struct (mapStrategiesFields_mapDecls fields)
  | .cast value asType => congrArg (Expr.cast · asType) value.mapStrategies_mapDecls
  | .query relation => congrArg Expr.query relation.mapStrategies_mapDecls

theorem mapStrategiesList_mapDecls : ∀ es : List (Expr V),
    mapStrategiesList g (mapDeclsList f es) = mapDeclsList f (mapStrategiesList g es)
  | [] => rfl
  | e :: es => congrArg₂ List.cons e.mapStrategies_mapDecls (mapStrategiesList_mapDecls es)

theorem mapStrategiesOption_mapDecls : ∀ e : Option (Expr V),
    mapStrategiesOption g (mapDeclsOption f e) = mapDeclsOption f (mapStrategiesOption g e)
  | none => rfl
  | some e => congrArg some e.mapStrategies_mapDecls

theorem mapStrategiesSteps_mapDecls : ∀ steps : List (PathStep V),
    mapStrategiesSteps g (mapDeclsSteps f steps) = mapDeclsSteps f (mapStrategiesSteps g steps)
  | [] => rfl
  | .key key case :: steps => congrArg₂ (PathStep.key · case :: ·) key.mapStrategies_mapDecls
    (mapStrategiesSteps_mapDecls steps)
  | .wildcard :: steps => congrArg (PathStep.wildcard :: ·) (mapStrategiesSteps_mapDecls steps)
  | .unpivot :: steps => congrArg (PathStep.unpivot :: ·) (mapStrategiesSteps_mapDecls steps)

theorem mapStrategiesBranches_mapDecls : ∀ branches : List (CaseBranch V),
    mapStrategiesBranches g (mapDeclsBranches f branches) = mapDeclsBranches f (mapStrategiesBranches g branches)
  | [] => rfl
  | ⟨condition, result⟩ :: branches => congrArg₂ List.cons
    (congrArg₂ CaseBranch.mk condition.mapStrategies_mapDecls result.mapStrategies_mapDecls)
    (mapStrategiesBranches_mapDecls branches)

theorem mapStrategiesFields_mapDecls : ∀ fields : List (StructField V),
    mapStrategiesFields g (mapDeclsFields f fields) = mapDeclsFields f (mapStrategiesFields g fields)
  | [] => rfl
  | ⟨key, value⟩ :: fields => congrArg₂ List.cons
    (congrArg₂ StructField.mk key.mapStrategies_mapDecls value.mapStrategies_mapDecls)
    (mapStrategiesFields_mapDecls fields)

theorem Relation.mapStrategies_mapDecls : ∀ r : Relation V,
    (r.mapDecls f).mapStrategies g = (r.mapStrategies g).mapDecls f
  | ⟨.unit, _⟩ => rfl
  | ⟨.scan expr asDecl atDecl byDecl, s⟩ =>
    congrArg (fun x => Relation.mk (.scan x (f asDecl) (atDecl.map f) (byDecl.map f)) (g s)) expr.mapStrategies_mapDecls
  | ⟨.unpivot expr asDecl atDecl byDecl, s⟩ =>
    congrArg (fun x => Relation.mk (.unpivot x (f asDecl) (atDecl.map f) (byDecl.map f)) (g s))
      expr.mapStrategies_mapDecls
  | ⟨.filter predicate source, s⟩ =>
    congrArg₂ (fun x y => Relation.mk (.filter x y) (g s)) predicate.mapStrategies_mapDecls
      source.mapStrategies_mapDecls
  | ⟨.join kind left right predicate, s⟩ => by
    show Relation.mk (.join kind _ _ _) (g s) = Relation.mk (.join kind _ _ _) (g s)
    rw [left.mapStrategies_mapDecls, right.mapStrategies_mapDecls, mapStrategiesOption_mapDecls predicate]
  | ⟨.letting source bindings, s⟩ =>
    congrArg₂ (fun x y => Relation.mk (.letting x y) (g s)) source.mapStrategies_mapDecls
      (mapStrategiesNamed_mapDecls bindings)
  | ⟨.aggregate source keys groupAs, s⟩ =>
    congrArg₂ (fun x y => Relation.mk (.aggregate x y (groupAs.map f)) (g s)) source.mapStrategies_mapDecls
      (mapStrategiesNamed_mapDecls keys)
  | ⟨.sort source keys, s⟩ =>
    congrArg₂ (fun x y => Relation.mk (.sort x y) (g s)) source.mapStrategies_mapDecls
      (mapStrategiesSortKeys_mapDecls keys)
  | ⟨.offset source rowCount, s⟩ =>
    congrArg₂ (fun x y => Relation.mk (.offset x y) (g s)) source.mapStrategies_mapDecls rowCount.mapStrategies_mapDecls
  | ⟨.limit source rowCount, s⟩ =>
    congrArg₂ (fun x y => Relation.mk (.limit x y) (g s)) source.mapStrategies_mapDecls rowCount.mapStrategies_mapDecls
  | ⟨.project source projection quantifier, s⟩ =>
    congrArg₂ (fun x y => Relation.mk (.project x y quantifier) (g s)) source.mapStrategies_mapDecls
      projection.mapStrategies_mapDecls
  | ⟨.setOp op quantifier left right, s⟩ =>
    congrArg₂ (fun x y => Relation.mk (.setOp op quantifier x y) (g s)) left.mapStrategies_mapDecls
      right.mapStrategies_mapDecls

theorem mapStrategiesNamed_mapDecls : ∀ bindings : List (Named V),
    mapStrategiesNamed g (mapDeclsNamed f bindings) = mapDeclsNamed f (mapStrategiesNamed g bindings)
  | [] => rfl
  | ⟨expr, decl⟩ :: rest => congrArg₂ (Named.mk · (f decl) :: ·) expr.mapStrategies_mapDecls
    (mapStrategiesNamed_mapDecls rest)

theorem mapStrategiesSortKeys_mapDecls : ∀ keys : List (SortKey V),
    mapStrategiesSortKeys g (mapDeclsSortKeys f keys) = mapDeclsSortKeys f (mapStrategiesSortKeys g keys)
  | [] => rfl
  | ⟨expr, order, nulls⟩ :: rest => congrArg₂ (SortKey.mk · order nulls :: ·) expr.mapStrategies_mapDecls
    (mapStrategiesSortKeys_mapDecls rest)

theorem Projection.mapStrategies_mapDecls : ∀ p : Projection V,
    (p.mapDecls f).mapStrategies g = (p.mapStrategies g).mapDecls f
  | .value expr => congrArg Projection.value expr.mapStrategies_mapDecls
  | .struct items => congrArg Projection.struct (mapStrategiesItems_mapDecls items)
  | .pivot value key => congrArg₂ Projection.pivot value.mapStrategies_mapDecls key.mapStrategies_mapDecls

theorem mapStrategiesItems_mapDecls : ∀ items : List (ProjectItem V),
    mapStrategiesItems g (mapDeclsItems f items) = mapDeclsItems f (mapStrategiesItems g items)
  | [] => rfl
  | .expr expr field :: items => congrArg₂ (ProjectItem.expr · field :: ·) expr.mapStrategies_mapDecls
    (mapStrategiesItems_mapDecls items)
  | .all expr :: items => congrArg₂ (ProjectItem.all · :: ·) expr.mapStrategies_mapDecls
    (mapStrategiesItems_mapDecls items)

end

theorem Statement.mapStrategies_mapDecls (s : Statement V) :
    (s.mapDecls f).mapStrategies g = (s.mapStrategies g).mapDecls f := by
  cases s with
  | query expr => exact congrArg Statement.query (expr.mapStrategies_mapDecls f g)
  | exec procedure args => exact congrArg (Statement.exec procedure) (mapStrategiesList_mapDecls f g args)
  | dml mutations =>
    simp only [mapDecls, mapStrategies, List.map_map, Function.comp_def, Mutation.mapDecls, Expr.mapStrategies_mapDecls]
  | dmlCommands commands =>
    simp only [mapDecls, mapStrategies, List.map_map, Function.comp_def, Command.mapDecls, Expr.mapStrategies_mapDecls]

end

end Plan

end NestedQuery
