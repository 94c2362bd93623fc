/-
The shape of a plan is all of it but what its variables carry: its operators, declarations, literals and
strategies. Replacing what the variables carry keeps the shape, since replacements one after the other are one
replacement. The occurrences of a plan are its variables in the order of reading, each with whether it is the
target of a mutation.
-/
import NestedQuery.Proofs.Plan.Replacement

namespace NestedQuery.Plan

variable {U V W : Type}

/-! ## Replacements one after the other -/

section

variable (g : V → W) (f : W → U)

mutual

theorem Expr.map_map : ∀ e : Expr V, (e.map g).map f = e.map (f ∘ g)
  | .lit _ => rfl
  | .var _ => rfl
  | .path root steps => congrArg₂ Expr.path root.map_map (mapSteps_map steps)
  | .unary op operand => congrArg (Expr.unary op) operand.map_map
  | .binary op lhs rhs => congrArg₂ (Expr.binary op) lhs.map_map rhs.map_map
  | .call name args => congrArg (Expr.call name) (mapList_map args)
  | .callAgg name quantifier arg => congrArg (Expr.callAgg name quantifier) arg.map_map
  | .case operand branches otherwise => by
    show Expr.case _ _ _ = Expr.case _ _ _
    rw [mapOption_map operand, mapBranches_map branches, mapOption_map otherwise]
  | .collection kind values => congrArg (Expr.collection kind) (mapList_map values)
  | .struct fields => congrArg Expr.struct (mapFields_map fields)
  | .cast value asType => congrArg (Expr.cast · asType) value.map_map
  | .query relation => congrArg Expr.query relation.map_map

theorem mapList_map : ∀ es : List (Expr V), mapList f (mapList g es) = mapList (f ∘ g) es
  | [] => rfl
  | e :: es => congrArg₂ List.cons e.map_map (mapList_map es)

theorem mapOption_map : ∀ e : Option (Expr V), mapOption f (mapOption g e) = mapOption (f ∘ g) e
  | none => rfl
  | some e => congrArg some e.map_map

theorem mapSteps_map : ∀ steps : List (PathStep V), mapSteps f (mapSteps g steps) = mapSteps (f ∘ g) steps
  | [] => rfl
  | .key key case :: steps => congrArg₂ (PathStep.key · case :: ·) key.map_map (mapSteps_map steps)
  | .wildcard :: steps => congrArg (PathStep.wildcard :: ·) (mapSteps_map steps)
  | .unpivot :: steps => congrArg (PathStep.unpivot :: ·) (mapSteps_map steps)

theorem mapBranches_map :
    ∀ branches : List (CaseBranch V), mapBranches f (mapBranches g branches) = mapBranches (f ∘ g) branches
  | [] => rfl
  | ⟨condition, result⟩ :: branches =>
    congrArg₂ List.cons (congrArg₂ CaseBranch.mk condition.map_map result.map_map) (mapBranches_map branches)

theorem mapFields_map : ∀ fields : List (StructField V), mapFields f (mapFields g fields) = mapFields (f ∘ g) fields
  | [] => rfl
  | ⟨key, value⟩ :: fields =>
    congrArg₂ List.cons (congrArg₂ StructField.mk key.map_map value.map_map) (mapFields_map fields)

theorem Relation.map_map : ∀ r : Relation V, (r.map g).map f = r.map (f ∘ g)
  | ⟨.unit, _⟩ => rfl
  | ⟨.scan expr asDecl atDecl byDecl, s⟩ =>
    congrArg (fun e => Relation.mk (.scan e asDecl atDecl byDecl) s) expr.map_map
  | ⟨.unpivot expr asDecl atDecl byDecl, s⟩ =>
    congrArg (fun e => Relation.mk (.unpivot e asDecl atDecl byDecl) s) expr.map_map
  | ⟨.filter predicate source, s⟩ =>
    congrArg₂ (fun e r => Relation.mk (.filter e r) s) predicate.map_map source.map_map
  | ⟨.join kind left right predicate, s⟩ => by
    show Relation.mk (.join kind _ _ _) s = ⟨.join kind _ _ _, s⟩
    rw [left.map_map, right.map_map, mapOption_map predicate]
  | ⟨.letting source bindings, s⟩ =>
    congrArg₂ (fun r bs => Relation.mk (.letting r bs) s) source.map_map (mapNamed_map bindings)
  | ⟨.aggregate source keys groupAs, s⟩ =>
    congrArg₂ (fun r ks => Relation.mk (.aggregate r ks groupAs) s) source.map_map (mapNamed_map keys)
  | ⟨.sort source keys, s⟩ =>
    congrArg₂ (fun r ks => Relation.mk (.sort r ks) s) source.map_map (mapSortKeys_map keys)
  | ⟨.offset source rowCount, s⟩ =>
    congrArg₂ (fun r n => Relation.mk (.offset r n) s) source.map_map rowCount.map_map
  | ⟨.limit source rowCount, s⟩ =>
    congrArg₂ (fun r n => Relation.mk (.limit r n) s) source.map_map rowCount.map_map
  | ⟨.project source projection quantifier, s⟩ =>
    congrArg₂ (fun r p => Relation.mk (.project r p quantifier) s) source.map_map projection.map_map
  | ⟨.setOp op quantifier left right, s⟩ =>
    congrArg₂ (fun l r => Relation.mk (.setOp op quantifier l r) s) left.map_map right.map_map

theorem mapNamed_map : ∀ bindings : List (Named V), mapNamed f (mapNamed g bindings) = mapNamed (f ∘ g) bindings
  | [] => rfl
  | ⟨expr, decl⟩ :: rest => congrArg₂ (Named.mk · decl :: ·) expr.map_map (mapNamed_map rest)

theorem mapSortKeys_map : ∀ keys : List (SortKey V), mapSortKeys f (mapSortKeys g keys) = mapSortKeys (f ∘ g) keys
  | [] => rfl
  | ⟨expr, order, nulls⟩ :: rest => congrArg₂ (SortKey.mk · order nulls :: ·) expr.map_map (mapSortKeys_map rest)

theorem Projection.map_map : ∀ p : Projection V, (p.map g).map f = p.map (f ∘ g)
  | .value expr => congrArg Projection.value expr.map_map
  | .struct items => congrArg Projection.struct (mapItems_map items)
  | .pivot value key => congrArg₂ Projection.pivot value.map_map key.map_map

theorem mapItems_map : ∀ items : List (ProjectItem V), mapItems f (mapItems g items) = mapItems (f ∘ g) items
  | [] => rfl
  | .expr expr field :: items => congrArg₂ (ProjectItem.expr · field :: ·) expr.map_map (mapItems_map items)
  | .all expr :: items => congrArg₂ (ProjectItem.all · :: ·) expr.map_map (mapItems_map items)

end

/-- Two replacements one after the other are one. -/
theorem Statement.map_map : ∀ s : Statement V, (s.map g).map f = s.map (f ∘ g)
  | .query expr => congrArg Statement.query (expr.map_map g f)
  | .dml mutations => by
    show Statement.dml _ = Statement.dml _
    rw [List.map_map]
    refine congrArg Statement.dml (List.map_congr_left fun m _ => ?_)
    exact congrArg (Mutation.mk m.action (f (g m.target))) (m.rows.map_map g f)
  | .dmlCommands commands => by
    show Statement.dmlCommands _ = Statement.dmlCommands _
    rw [List.map_map]
    refine congrArg Statement.dmlCommands (List.map_congr_left fun c _ => ?_)
    exact congrArg (Command.mk c.action c.targetId) (c.rows.map_map g f)
  | .exec procedure args => congrArg (Statement.exec procedure) (mapList_map g f args)

end

/-! ## Shape -/

/-- A statement without what its variables carry. -/
def Statement.shape (s : Statement V) : Statement Unit := s.map fun _ => ()

/-- Replacing what the variables carry keeps the shape. -/
@[simp] theorem Statement.shape_map (g : V → W) (s : Statement V) : (s.map g).shape = s.shape :=
  s.map_map g fun _ => ()

/-! ## Occurrences -/

/-- A variable at its place in a statement. -/
structure Occurrence (V : Type) where
  var : V
  /-- It is the collection that a mutation changes. -/
  isTarget : Bool
  deriving DecidableEq

def Occurrence.map (g : V → W) (o : Occurrence V) : Occurrence W := ⟨g o.var, o.isTarget⟩

/-- What occurs at an item of an outline. -/
def Item.occurrence? : Item V → Option (Occurrence V)
  | .var _ v => some ⟨v, false⟩
  | .target v => some ⟨v, true⟩
  | .block .. => none

/-- The variables of a statement at their places, in the order of reading. -/
def Statement.occurrences (s : Statement V) : List (Occurrence V) := s.outline.filterMap Item.occurrence?

/-- What occurs in a statement are its variables. -/
theorem Statement.map_var_occurrences (s : Statement V) : s.occurrences.map (·.var) = s.vars := by
  rw [occurrences, List.map_filterMap, ← s.itemVars_outline, itemVars]
  congr 1
  funext i
  cases i <;> rfl

theorem Statement.occurrences_map (g : V → W) (s : Statement V) :
    (s.map g).occurrences = s.occurrences.map (Occurrence.map g) := by
  rw [occurrences, occurrences, s.outline_map, List.filterMap_map, List.map_filterMap]
  congr 1
  funext i
  cases i <;> rfl

end NestedQuery.Plan
