/-
Changing the strategies of a plan and nothing else. A change acts on each operator by itself: it keeps the variables,
and the relations of the changed plan are those of the plan, changed, in the same order. Changes one after the other
are one change, and a change that leaves every strategy as it is leaves the plan as it is.
-/
import NestedQuery.Plan.Strategies
import NestedQuery.Plan.Vars
import NestedQuery.Proofs.Plan.Agreement

namespace NestedQuery.Plan

variable {V : Type}

/-! ## Variables -/

section Vars

variable (f : Option Strategy → Option Strategy)

mutual

theorem Expr.vars_mapStrategies : ∀ e : Expr V, (e.mapStrategies f).vars = e.vars
  | .lit _ => rfl
  | .var _ => rfl
  | .path root steps => congrArg₂ List.append root.vars_mapStrategies (varsSteps_mapStrategies steps)
  | .unary _ operand => operand.vars_mapStrategies
  | .binary _ lhs rhs => congrArg₂ List.append lhs.vars_mapStrategies rhs.vars_mapStrategies
  | .call _ args => varsList_mapStrategies args
  | .callAgg _ _ arg => arg.vars_mapStrategies
  | .case operand branches otherwise =>
    congrArg₂ List.append
      (congrArg₂ List.append (varsOption_mapStrategies operand) (varsBranches_mapStrategies branches))
      (varsOption_mapStrategies otherwise)
  | .collection _ values => varsList_mapStrategies values
  | .struct fields => varsFields_mapStrategies fields
  | .cast value _ => value.vars_mapStrategies
  | .query relation => relation.vars_mapStrategies

theorem varsList_mapStrategies : ∀ es : List (Expr V), varsList (mapStrategiesList f es) = varsList es
  | [] => rfl
  | e :: es => congrArg₂ List.append e.vars_mapStrategies (varsList_mapStrategies es)

theorem varsOption_mapStrategies : ∀ e : Option (Expr V), varsOption (mapStrategiesOption f e) = varsOption e
  | none => rfl
  | some e => e.vars_mapStrategies

theorem varsSteps_mapStrategies :
    ∀ steps : List (PathStep V), varsSteps (mapStrategiesSteps f steps) = varsSteps steps
  | [] => rfl
  | .key key _ :: steps => congrArg₂ List.append key.vars_mapStrategies (varsSteps_mapStrategies steps)
  | .wildcard :: steps => varsSteps_mapStrategies steps
  | .unpivot :: steps => varsSteps_mapStrategies steps

theorem varsBranches_mapStrategies :
    ∀ branches : List (CaseBranch V), varsBranches (mapStrategiesBranches f branches) = varsBranches branches
  | [] => rfl
  | ⟨condition, result⟩ :: branches =>
    congrArg₂ List.append (congrArg₂ List.append condition.vars_mapStrategies result.vars_mapStrategies)
      (varsBranches_mapStrategies branches)

theorem varsFields_mapStrategies :
    ∀ fields : List (StructField V), varsFields (mapStrategiesFields f fields) = varsFields fields
  | [] => rfl
  | ⟨key, value⟩ :: fields =>
    congrArg₂ List.append (congrArg₂ List.append key.vars_mapStrategies value.vars_mapStrategies)
      (varsFields_mapStrategies fields)

theorem Relation.vars_mapStrategies : ∀ r : Relation V, (r.mapStrategies f).vars = r.vars
  | ⟨.unit, _⟩ => rfl
  | ⟨.scan expr .., _⟩ => expr.vars_mapStrategies
  | ⟨.unpivot expr .., _⟩ => expr.vars_mapStrategies
  | ⟨.filter predicate source, _⟩ => congrArg₂ List.append source.vars_mapStrategies predicate.vars_mapStrategies
  | ⟨.join _ left right predicate, _⟩ =>
    congrArg₂ List.append (congrArg₂ List.append left.vars_mapStrategies right.vars_mapStrategies)
      (varsOption_mapStrategies predicate)
  | ⟨.letting source bindings, _⟩ =>
    congrArg₂ List.append source.vars_mapStrategies (varsNamed_mapStrategies bindings)
  | ⟨.aggregate source keys _, _⟩ => congrArg₂ List.append source.vars_mapStrategies (varsNamed_mapStrategies keys)
  | ⟨.sort source keys, _⟩ => congrArg₂ List.append source.vars_mapStrategies (varsSortKeys_mapStrategies keys)
  | ⟨.offset source rowCount, _⟩ => congrArg₂ List.append source.vars_mapStrategies rowCount.vars_mapStrategies
  | ⟨.limit source rowCount, _⟩ => congrArg₂ List.append source.vars_mapStrategies rowCount.vars_mapStrategies
  | ⟨.project source projection _, _⟩ =>
    congrArg₂ List.append source.vars_mapStrategies projection.vars_mapStrategies
  | ⟨.setOp _ _ left right, _⟩ => congrArg₂ List.append left.vars_mapStrategies right.vars_mapStrategies

theorem varsNamed_mapStrategies :
    ∀ bindings : List (Named V), varsNamed (mapStrategiesNamed f bindings) = varsNamed bindings
  | [] => rfl
  | ⟨expr, _⟩ :: rest => congrArg₂ List.append expr.vars_mapStrategies (varsNamed_mapStrategies rest)

theorem varsSortKeys_mapStrategies :
    ∀ keys : List (SortKey V), varsSortKeys (mapStrategiesSortKeys f keys) = varsSortKeys keys
  | [] => rfl
  | ⟨expr, _, _⟩ :: rest => congrArg₂ List.append expr.vars_mapStrategies (varsSortKeys_mapStrategies rest)

theorem Projection.vars_mapStrategies : ∀ p : Projection V, (p.mapStrategies f).vars = p.vars
  | .value expr => expr.vars_mapStrategies
  | .struct items => varsItems_mapStrategies items
  | .pivot value key => congrArg₂ List.append value.vars_mapStrategies key.vars_mapStrategies

theorem varsItems_mapStrategies :
    ∀ items : List (ProjectItem V), varsItems (mapStrategiesItems f items) = varsItems items
  | [] => rfl
  | .expr expr _ :: items => congrArg₂ List.append expr.vars_mapStrategies (varsItems_mapStrategies items)
  | .all expr :: items => congrArg₂ List.append expr.vars_mapStrategies (varsItems_mapStrategies items)

end

end Vars

/-! ## Relations -/

section Relations

variable (f : Option Strategy → Option Strategy)

theorem cons_eq_map {α β : Type} {f : α → β} {x : α} {xs : List α} {u : β} {us : List β} (hx : u = f x)
    (h : us = xs.map f) : u :: us = (x :: xs).map f := by
  rw [hx, h, List.map_cons]

mutual

theorem Expr.relations_mapStrategies :
    ∀ e : Expr V, (e.mapStrategies f).relations = e.relations.map (Relation.mapStrategies f)
  | .lit _ => rfl
  | .var _ => rfl
  | .path root steps => append_eq_map root.relations_mapStrategies (relationsSteps_mapStrategies steps)
  | .unary _ operand => operand.relations_mapStrategies
  | .binary _ lhs rhs => append_eq_map lhs.relations_mapStrategies rhs.relations_mapStrategies
  | .call _ args => relationsList_mapStrategies args
  | .callAgg _ _ arg => arg.relations_mapStrategies
  | .case operand branches otherwise =>
    append_eq_map (append_eq_map (relationsOption_mapStrategies operand) (relationsBranches_mapStrategies branches))
      (relationsOption_mapStrategies otherwise)
  | .collection _ values => relationsList_mapStrategies values
  | .struct fields => relationsFields_mapStrategies fields
  | .cast value _ => value.relations_mapStrategies
  | .query relation => relation.relations_mapStrategies

theorem relationsList_mapStrategies : ∀ es : List (Expr V),
    relationsList (mapStrategiesList f es) = (relationsList es).map (Relation.mapStrategies f)
  | [] => rfl
  | e :: es => append_eq_map e.relations_mapStrategies (relationsList_mapStrategies es)

theorem relationsOption_mapStrategies : ∀ e : Option (Expr V),
    relationsOption (mapStrategiesOption f e) = (relationsOption e).map (Relation.mapStrategies f)
  | none => rfl
  | some e => e.relations_mapStrategies

theorem relationsSteps_mapStrategies : ∀ steps : List (PathStep V),
    relationsSteps (mapStrategiesSteps f steps) = (relationsSteps steps).map (Relation.mapStrategies f)
  | [] => rfl
  | .key key _ :: steps => append_eq_map key.relations_mapStrategies (relationsSteps_mapStrategies steps)
  | .wildcard :: steps => relationsSteps_mapStrategies steps
  | .unpivot :: steps => relationsSteps_mapStrategies steps

theorem relationsBranches_mapStrategies : ∀ branches : List (CaseBranch V),
    relationsBranches (mapStrategiesBranches f branches) =
      (relationsBranches branches).map (Relation.mapStrategies f)
  | [] => rfl
  | ⟨condition, result⟩ :: branches =>
    append_eq_map (append_eq_map condition.relations_mapStrategies result.relations_mapStrategies)
      (relationsBranches_mapStrategies branches)

theorem relationsFields_mapStrategies : ∀ fields : List (StructField V),
    relationsFields (mapStrategiesFields f fields) = (relationsFields fields).map (Relation.mapStrategies f)
  | [] => rfl
  | ⟨key, value⟩ :: fields =>
    append_eq_map (append_eq_map key.relations_mapStrategies value.relations_mapStrategies)
      (relationsFields_mapStrategies fields)

theorem Relation.relations_mapStrategies :
    ∀ r : Relation V, (r.mapStrategies f).relations = r.relations.map (Relation.mapStrategies f)
  | ⟨.unit, _⟩ => rfl
  | ⟨.scan expr .., _⟩ => cons_eq_map rfl expr.relations_mapStrategies
  | ⟨.unpivot expr .., _⟩ => cons_eq_map rfl expr.relations_mapStrategies
  | ⟨.filter predicate source, _⟩ =>
    append_eq_map (cons_eq_map rfl source.relations_mapStrategies) predicate.relations_mapStrategies
  | ⟨.join _ left right predicate, _⟩ =>
    append_eq_map (append_eq_map (cons_eq_map rfl left.relations_mapStrategies) right.relations_mapStrategies)
      (relationsOption_mapStrategies predicate)
  | ⟨.letting source bindings, _⟩ =>
    append_eq_map (cons_eq_map rfl source.relations_mapStrategies) (relationsNamed_mapStrategies bindings)
  | ⟨.aggregate source keys _, _⟩ =>
    append_eq_map (cons_eq_map rfl source.relations_mapStrategies) (relationsNamed_mapStrategies keys)
  | ⟨.sort source keys, _⟩ =>
    append_eq_map (cons_eq_map rfl source.relations_mapStrategies) (relationsSortKeys_mapStrategies keys)
  | ⟨.offset source rowCount, _⟩ =>
    append_eq_map (cons_eq_map rfl source.relations_mapStrategies) rowCount.relations_mapStrategies
  | ⟨.limit source rowCount, _⟩ =>
    append_eq_map (cons_eq_map rfl source.relations_mapStrategies) rowCount.relations_mapStrategies
  | ⟨.project source projection _, _⟩ =>
    append_eq_map (cons_eq_map rfl source.relations_mapStrategies) projection.relations_mapStrategies
  | ⟨.setOp _ _ left right, _⟩ =>
    append_eq_map (cons_eq_map rfl left.relations_mapStrategies) right.relations_mapStrategies

theorem relationsNamed_mapStrategies : ∀ bindings : List (Named V),
    relationsNamed (mapStrategiesNamed f bindings) = (relationsNamed bindings).map (Relation.mapStrategies f)
  | [] => rfl
  | ⟨expr, _⟩ :: rest => append_eq_map expr.relations_mapStrategies (relationsNamed_mapStrategies rest)

theorem relationsSortKeys_mapStrategies : ∀ keys : List (SortKey V),
    relationsSortKeys (mapStrategiesSortKeys f keys) = (relationsSortKeys keys).map (Relation.mapStrategies f)
  | [] => rfl
  | ⟨expr, _, _⟩ :: rest => append_eq_map expr.relations_mapStrategies (relationsSortKeys_mapStrategies rest)

theorem Projection.relations_mapStrategies :
    ∀ p : Projection V, (p.mapStrategies f).relations = p.relations.map (Relation.mapStrategies f)
  | .value expr => expr.relations_mapStrategies
  | .struct items => relationsItems_mapStrategies items
  | .pivot value key => append_eq_map value.relations_mapStrategies key.relations_mapStrategies

theorem relationsItems_mapStrategies : ∀ items : List (ProjectItem V),
    relationsItems (mapStrategiesItems f items) = (relationsItems items).map (Relation.mapStrategies f)
  | [] => rfl
  | .expr expr _ :: items => append_eq_map expr.relations_mapStrategies (relationsItems_mapStrategies items)
  | .all expr :: items => append_eq_map expr.relations_mapStrategies (relationsItems_mapStrategies items)

end

end Relations

/-! ## Changes one after the other -/

section Comp

variable (f g : Option Strategy → Option Strategy)

mutual

theorem Expr.mapStrategies_comp : ∀ e : Expr V, (e.mapStrategies f).mapStrategies g = e.mapStrategies (g ∘ f)
  | .lit _ => rfl
  | .var _ => rfl
  | .path root steps => congrArg₂ Expr.path root.mapStrategies_comp (mapStrategiesSteps_comp steps)
  | .unary op operand => congrArg (Expr.unary op) operand.mapStrategies_comp
  | .binary op lhs rhs => congrArg₂ (Expr.binary op) lhs.mapStrategies_comp rhs.mapStrategies_comp
  | .call name args => congrArg (Expr.call name) (mapStrategiesList_comp args)
  | .callAgg name quantifier arg => congrArg (Expr.callAgg name quantifier) arg.mapStrategies_comp
  | .case operand branches otherwise => by
    show Expr.case _ _ _ = Expr.case _ _ _
    rw [mapStrategiesOption_comp operand, mapStrategiesBranches_comp branches, mapStrategiesOption_comp otherwise]
  | .collection kind values => congrArg (Expr.collection kind) (mapStrategiesList_comp values)
  | .struct fields => congrArg Expr.struct (mapStrategiesFields_comp fields)
  | .cast value asType => congrArg (Expr.cast · asType) value.mapStrategies_comp
  | .query relation => congrArg Expr.query relation.mapStrategies_comp

theorem mapStrategiesList_comp : ∀ es : List (Expr V),
    mapStrategiesList g (mapStrategiesList f es) = mapStrategiesList (g ∘ f) es
  | [] => rfl
  | e :: es => congrArg₂ List.cons e.mapStrategies_comp (mapStrategiesList_comp es)

theorem mapStrategiesOption_comp : ∀ e : Option (Expr V),
    mapStrategiesOption g (mapStrategiesOption f e) = mapStrategiesOption (g ∘ f) e
  | none => rfl
  | some e => congrArg some e.mapStrategies_comp

theorem mapStrategiesSteps_comp : ∀ steps : List (PathStep V),
    mapStrategiesSteps g (mapStrategiesSteps f steps) = mapStrategiesSteps (g ∘ f) steps
  | [] => rfl
  | .key key case :: steps =>
    congrArg₂ (PathStep.key · case :: ·) key.mapStrategies_comp (mapStrategiesSteps_comp steps)
  | .wildcard :: steps => congrArg (PathStep.wildcard :: ·) (mapStrategiesSteps_comp steps)
  | .unpivot :: steps => congrArg (PathStep.unpivot :: ·) (mapStrategiesSteps_comp steps)

theorem mapStrategiesBranches_comp : ∀ branches : List (CaseBranch V),
    mapStrategiesBranches g (mapStrategiesBranches f branches) = mapStrategiesBranches (g ∘ f) branches
  | [] => rfl
  | ⟨condition, result⟩ :: branches =>
    congrArg₂ List.cons (congrArg₂ CaseBranch.mk condition.mapStrategies_comp result.mapStrategies_comp)
      (mapStrategiesBranches_comp branches)

theorem mapStrategiesFields_comp : ∀ fields : List (StructField V),
    mapStrategiesFields g (mapStrategiesFields f fields) = mapStrategiesFields (g ∘ f) fields
  | [] => rfl
  | ⟨key, value⟩ :: fields =>
    congrArg₂ List.cons (congrArg₂ StructField.mk key.mapStrategies_comp value.mapStrategies_comp)
      (mapStrategiesFields_comp fields)

theorem Relation.mapStrategies_comp :
    ∀ r : Relation V, (r.mapStrategies f).mapStrategies g = r.mapStrategies (g ∘ f)
  | ⟨op, strategy⟩ => congrArg (Relation.mk · (g (f strategy))) op.mapStrategies_comp

theorem RelOp.mapStrategies_comp : ∀ op : RelOp V, (op.mapStrategies f).mapStrategies g = op.mapStrategies (g ∘ f)
  | .unit => rfl
  | .scan expr asDecl atDecl byDecl =>
    congrArg (fun e => RelOp.scan e asDecl atDecl byDecl) expr.mapStrategies_comp
  | .unpivot expr asDecl atDecl byDecl =>
    congrArg (fun e => RelOp.unpivot e asDecl atDecl byDecl) expr.mapStrategies_comp
  | .filter predicate source => congrArg₂ RelOp.filter predicate.mapStrategies_comp source.mapStrategies_comp
  | .join kind left right predicate => by
    show RelOp.join kind _ _ _ = RelOp.join kind _ _ _
    rw [left.mapStrategies_comp, right.mapStrategies_comp, mapStrategiesOption_comp predicate]
  | .letting source bindings =>
    congrArg₂ RelOp.letting source.mapStrategies_comp (mapStrategiesNamed_comp bindings)
  | .aggregate source keys groupAs =>
    congrArg₂ (fun r ks => RelOp.aggregate r ks groupAs) source.mapStrategies_comp (mapStrategiesNamed_comp keys)
  | .sort source keys => congrArg₂ RelOp.sort source.mapStrategies_comp (mapStrategiesSortKeys_comp keys)
  | .offset source rowCount => congrArg₂ RelOp.offset source.mapStrategies_comp rowCount.mapStrategies_comp
  | .limit source rowCount => congrArg₂ RelOp.limit source.mapStrategies_comp rowCount.mapStrategies_comp
  | .project source projection quantifier =>
    congrArg₂ (fun r p => RelOp.project r p quantifier) source.mapStrategies_comp projection.mapStrategies_comp
  | .setOp op quantifier left right =>
    congrArg₂ (RelOp.setOp op quantifier) left.mapStrategies_comp right.mapStrategies_comp

theorem mapStrategiesNamed_comp : ∀ bindings : List (Named V),
    mapStrategiesNamed g (mapStrategiesNamed f bindings) = mapStrategiesNamed (g ∘ f) bindings
  | [] => rfl
  | ⟨expr, decl⟩ :: rest => congrArg₂ (Named.mk · decl :: ·) expr.mapStrategies_comp (mapStrategiesNamed_comp rest)

theorem mapStrategiesSortKeys_comp : ∀ keys : List (SortKey V),
    mapStrategiesSortKeys g (mapStrategiesSortKeys f keys) = mapStrategiesSortKeys (g ∘ f) keys
  | [] => rfl
  | ⟨expr, order, nulls⟩ :: rest =>
    congrArg₂ (SortKey.mk · order nulls :: ·) expr.mapStrategies_comp (mapStrategiesSortKeys_comp rest)

theorem Projection.mapStrategies_comp :
    ∀ p : Projection V, (p.mapStrategies f).mapStrategies g = p.mapStrategies (g ∘ f)
  | .value expr => congrArg Projection.value expr.mapStrategies_comp
  | .struct items => congrArg Projection.struct (mapStrategiesItems_comp items)
  | .pivot value key => congrArg₂ Projection.pivot value.mapStrategies_comp key.mapStrategies_comp

theorem mapStrategiesItems_comp : ∀ items : List (ProjectItem V),
    mapStrategiesItems g (mapStrategiesItems f items) = mapStrategiesItems (g ∘ f) items
  | [] => rfl
  | .expr expr field :: items =>
    congrArg₂ (ProjectItem.expr · field :: ·) expr.mapStrategies_comp (mapStrategiesItems_comp items)
  | .all expr :: items => congrArg₂ (ProjectItem.all · :: ·) expr.mapStrategies_comp (mapStrategiesItems_comp items)

end

end Comp

/-! ## Strategies that stay -/

section Fixed

variable {f : Option Strategy → Option Strategy}

/-- The change leaves the strategies of the relations as they are. -/
abbrev Fixes (f : Option Strategy → Option Strategy) (rs : List (Relation V)) : Prop :=
  AgreeOn (fun r => f r.strategy) Relation.strategy rs

mutual

/-- A change that leaves every strategy of an expression as it is changes nothing. -/
theorem Expr.mapStrategies_eq_self : ∀ e : Expr V, Fixes f e.relations → e.mapStrategies f = e
  | .lit _, _ => rfl
  | .var _, _ => rfl
  | .path root steps, h =>
    congrArg₂ Expr.path (root.mapStrategies_eq_self h.left) (mapStrategiesSteps_eq_self steps h.right)
  | .unary op operand, h => congrArg (Expr.unary op) (operand.mapStrategies_eq_self h)
  | .binary op lhs rhs, h =>
    congrArg₂ (Expr.binary op) (lhs.mapStrategies_eq_self h.left) (rhs.mapStrategies_eq_self h.right)
  | .call name args, h => congrArg (Expr.call name) (mapStrategiesList_eq_self args h)
  | .callAgg name quantifier arg, h => congrArg (Expr.callAgg name quantifier) (arg.mapStrategies_eq_self h)
  | .case operand branches otherwise, h => by
    show Expr.case _ _ _ = Expr.case _ _ _
    rw [mapStrategiesOption_eq_self operand h.left.left, mapStrategiesBranches_eq_self branches h.left.right,
      mapStrategiesOption_eq_self otherwise h.right]
  | .collection kind values, h => congrArg (Expr.collection kind) (mapStrategiesList_eq_self values h)
  | .struct fields, h => congrArg Expr.struct (mapStrategiesFields_eq_self fields h)
  | .cast value asType, h => congrArg (Expr.cast · asType) (value.mapStrategies_eq_self h)
  | .query relation, h => congrArg Expr.query (relation.mapStrategies_eq_self h)

theorem mapStrategiesList_eq_self : ∀ es : List (Expr V), Fixes f (relationsList es) → mapStrategiesList f es = es
  | [], _ => rfl
  | e :: es, h => congrArg₂ List.cons (e.mapStrategies_eq_self h.left) (mapStrategiesList_eq_self es h.right)

theorem mapStrategiesOption_eq_self :
    ∀ e : Option (Expr V), Fixes f (relationsOption e) → mapStrategiesOption f e = e
  | none, _ => rfl
  | some e, h => congrArg some (e.mapStrategies_eq_self h)

theorem mapStrategiesSteps_eq_self :
    ∀ steps : List (PathStep V), Fixes f (relationsSteps steps) → mapStrategiesSteps f steps = steps
  | [], _ => rfl
  | .key key case :: steps, h =>
    congrArg₂ (PathStep.key · case :: ·) (key.mapStrategies_eq_self h.left) (mapStrategiesSteps_eq_self steps h.right)
  | .wildcard :: steps, h => congrArg (PathStep.wildcard :: ·) (mapStrategiesSteps_eq_self steps h)
  | .unpivot :: steps, h => congrArg (PathStep.unpivot :: ·) (mapStrategiesSteps_eq_self steps h)

theorem mapStrategiesBranches_eq_self :
    ∀ branches : List (CaseBranch V), Fixes f (relationsBranches branches) →
      mapStrategiesBranches f branches = branches
  | [], _ => rfl
  | ⟨condition, result⟩ :: branches, h =>
    congrArg₂ List.cons
      (congrArg₂ CaseBranch.mk (condition.mapStrategies_eq_self h.left.left)
        (result.mapStrategies_eq_self h.left.right))
      (mapStrategiesBranches_eq_self branches h.right)

theorem mapStrategiesFields_eq_self :
    ∀ fields : List (StructField V), Fixes f (relationsFields fields) → mapStrategiesFields f fields = fields
  | [], _ => rfl
  | ⟨key, value⟩ :: fields, h =>
    congrArg₂ List.cons
      (congrArg₂ StructField.mk (key.mapStrategies_eq_self h.left.left) (value.mapStrategies_eq_self h.left.right))
      (mapStrategiesFields_eq_self fields h.right)

theorem Relation.mapStrategies_eq_self : ∀ r : Relation V, Fixes f r.relations → r.mapStrategies f = r
  | ⟨.unit, _⟩, h => congrArg (Relation.mk .unit) h.head
  | ⟨.scan expr asDecl atDecl byDecl, _⟩, h =>
    congrArg₂ (fun e => Relation.mk (.scan e asDecl atDecl byDecl)) (expr.mapStrategies_eq_self h.tail) h.head
  | ⟨.unpivot expr asDecl atDecl byDecl, _⟩, h =>
    congrArg₂ (fun e => Relation.mk (.unpivot e asDecl atDecl byDecl)) (expr.mapStrategies_eq_self h.tail) h.head
  | ⟨.filter predicate source, _⟩, h =>
    congrArg₂ Relation.mk
      (congrArg₂ RelOp.filter (predicate.mapStrategies_eq_self h.right) (source.mapStrategies_eq_self h.left.tail))
      h.left.head
  | ⟨.join kind left right predicate, _⟩, h => by
    show Relation.mk (.join kind _ _ _) _ = Relation.mk (.join kind _ _ _) _
    rw [left.mapStrategies_eq_self h.left.left.tail, right.mapStrategies_eq_self h.left.right,
      mapStrategiesOption_eq_self predicate h.right, h.left.left.head]
  | ⟨.letting source bindings, _⟩, h =>
    congrArg₂ Relation.mk
      (congrArg₂ RelOp.letting (source.mapStrategies_eq_self h.left.tail)
        (mapStrategiesNamed_eq_self bindings h.right))
      h.left.head
  | ⟨.aggregate source keys groupAs, _⟩, h =>
    congrArg₂ Relation.mk
      (congrArg₂ (fun r ks => RelOp.aggregate r ks groupAs) (source.mapStrategies_eq_self h.left.tail)
        (mapStrategiesNamed_eq_self keys h.right))
      h.left.head
  | ⟨.sort source keys, _⟩, h =>
    congrArg₂ Relation.mk
      (congrArg₂ RelOp.sort (source.mapStrategies_eq_self h.left.tail) (mapStrategiesSortKeys_eq_self keys h.right))
      h.left.head
  | ⟨.offset source rowCount, _⟩, h =>
    congrArg₂ Relation.mk
      (congrArg₂ RelOp.offset (source.mapStrategies_eq_self h.left.tail) (rowCount.mapStrategies_eq_self h.right))
      h.left.head
  | ⟨.limit source rowCount, _⟩, h =>
    congrArg₂ Relation.mk
      (congrArg₂ RelOp.limit (source.mapStrategies_eq_self h.left.tail) (rowCount.mapStrategies_eq_self h.right))
      h.left.head
  | ⟨.project source projection quantifier, _⟩, h =>
    congrArg₂ Relation.mk
      (congrArg₂ (fun r p => RelOp.project r p quantifier) (source.mapStrategies_eq_self h.left.tail)
        (projection.mapStrategies_eq_self h.right))
      h.left.head
  | ⟨.setOp op quantifier left right, _⟩, h =>
    congrArg₂ Relation.mk
      (congrArg₂ (RelOp.setOp op quantifier) (left.mapStrategies_eq_self h.left.tail)
        (right.mapStrategies_eq_self h.right))
      h.left.head

theorem mapStrategiesNamed_eq_self :
    ∀ bindings : List (Named V), Fixes f (relationsNamed bindings) → mapStrategiesNamed f bindings = bindings
  | [], _ => rfl
  | ⟨expr, decl⟩ :: rest, h =>
    congrArg₂ (Named.mk · decl :: ·) (expr.mapStrategies_eq_self h.left) (mapStrategiesNamed_eq_self rest h.right)

theorem mapStrategiesSortKeys_eq_self :
    ∀ keys : List (SortKey V), Fixes f (relationsSortKeys keys) → mapStrategiesSortKeys f keys = keys
  | [], _ => rfl
  | ⟨expr, order, nulls⟩ :: rest, h =>
    congrArg₂ (SortKey.mk · order nulls :: ·) (expr.mapStrategies_eq_self h.left)
      (mapStrategiesSortKeys_eq_self rest h.right)

theorem Projection.mapStrategies_eq_self : ∀ p : Projection V, Fixes f p.relations → p.mapStrategies f = p
  | .value expr, h => congrArg Projection.value (expr.mapStrategies_eq_self h)
  | .struct items, h => congrArg Projection.struct (mapStrategiesItems_eq_self items h)
  | .pivot value key, h =>
    congrArg₂ Projection.pivot (value.mapStrategies_eq_self h.left) (key.mapStrategies_eq_self h.right)

theorem mapStrategiesItems_eq_self :
    ∀ items : List (ProjectItem V), Fixes f (relationsItems items) → mapStrategiesItems f items = items
  | [], _ => rfl
  | .expr expr field :: items, h =>
    congrArg₂ (ProjectItem.expr · field :: ·) (expr.mapStrategies_eq_self h.left)
      (mapStrategiesItems_eq_self items h.right)
  | .all expr :: items, h =>
    congrArg₂ (ProjectItem.all · :: ·) (expr.mapStrategies_eq_self h.left) (mapStrategiesItems_eq_self items h.right)

end

end Fixed

end NestedQuery.Plan
