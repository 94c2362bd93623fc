/-
Replacements that agree. What a replacement makes of a plan depends only on what it gives for the variables that
the plan has, so two replacements that agree on these make the same plan.
-/
import NestedQuery.Proofs.Plan.Replacement

namespace NestedQuery.Plan

variable {V W : Type}

/-- Two replacements give the same for each of the variables. -/
def AgreeOn (f g : V → W) (vs : List V) : Prop := ∀ v ∈ vs, f v = g v

namespace AgreeOn

variable {f g : V → W} {us vs : List V}

theorem head {v : V} (h : AgreeOn f g (v :: vs)) : f v = g v := h v List.mem_cons_self

theorem tail {v : V} (h : AgreeOn f g (v :: vs)) : AgreeOn f g vs := fun w hw => h w (List.mem_cons_of_mem v hw)

theorem left (h : AgreeOn f g (us ++ vs)) : AgreeOn f g us := fun v hv => h v (List.mem_append_left vs hv)

theorem right (h : AgreeOn f g (us ++ vs)) : AgreeOn f g vs := fun v hv => h v (List.mem_append_right us hv)

end AgreeOn

section

variable {f g : V → W}

mutual

theorem Expr.map_congr : ∀ e : Expr V, AgreeOn f g e.vars → e.map f = e.map g
  | .lit _, _ => rfl
  | .var _, h => congrArg Expr.var h.head
  | .path root steps, h => congrArg₂ Expr.path (root.map_congr h.left) (mapSteps_congr steps h.right)
  | .unary op operand, h => congrArg (Expr.unary op) (operand.map_congr h)
  | .binary op lhs rhs, h => congrArg₂ (Expr.binary op) (lhs.map_congr h.left) (rhs.map_congr h.right)
  | .call name args, h => congrArg (Expr.call name) (mapList_congr args h)
  | .callAgg name quantifier arg, h => congrArg (Expr.callAgg name quantifier) (arg.map_congr h)
  | .case operand branches otherwise, h => by
    show Expr.case _ _ _ = Expr.case _ _ _
    rw [mapOption_congr operand h.left.left, mapBranches_congr branches h.left.right,
      mapOption_congr otherwise h.right]
  | .collection kind values, h => congrArg (Expr.collection kind) (mapList_congr values h)
  | .struct fields, h => congrArg Expr.struct (mapFields_congr fields h)
  | .cast value asType, h => congrArg (Expr.cast · asType) (value.map_congr h)
  | .query relation, h => congrArg Expr.query (relation.map_congr h)

theorem mapList_congr : ∀ es : List (Expr V), AgreeOn f g (varsList es) → mapList f es = mapList g es
  | [], _ => rfl
  | e :: es, h => congrArg₂ List.cons (e.map_congr h.left) (mapList_congr es h.right)

theorem mapOption_congr : ∀ e : Option (Expr V), AgreeOn f g (varsOption e) → mapOption f e = mapOption g e
  | none, _ => rfl
  | some e, h => congrArg some (e.map_congr h)

theorem mapSteps_congr : ∀ steps : List (PathStep V), AgreeOn f g (varsSteps steps) →
    mapSteps f steps = mapSteps g steps
  | [], _ => rfl
  | .key key case :: steps, h =>
    congrArg₂ (PathStep.key · case :: ·) (key.map_congr h.left) (mapSteps_congr steps h.right)
  | .wildcard :: steps, h => congrArg (PathStep.wildcard :: ·) (mapSteps_congr steps h)
  | .unpivot :: steps, h => congrArg (PathStep.unpivot :: ·) (mapSteps_congr steps h)

theorem mapBranches_congr : ∀ branches : List (CaseBranch V), AgreeOn f g (varsBranches branches) →
    mapBranches f branches = mapBranches g branches
  | [], _ => rfl
  | ⟨condition, result⟩ :: branches, h =>
    congrArg₂ List.cons
      (congrArg₂ CaseBranch.mk (condition.map_congr h.left.left) (result.map_congr h.left.right))
      (mapBranches_congr branches h.right)

theorem mapFields_congr : ∀ fields : List (StructField V), AgreeOn f g (varsFields fields) →
    mapFields f fields = mapFields g fields
  | [], _ => rfl
  | ⟨key, value⟩ :: fields, h =>
    congrArg₂ List.cons (congrArg₂ StructField.mk (key.map_congr h.left.left) (value.map_congr h.left.right))
      (mapFields_congr fields h.right)

theorem Relation.map_congr : ∀ r : Relation V, AgreeOn f g r.vars → r.map f = r.map g
  | ⟨.unit, _⟩, _ => rfl
  | ⟨.scan expr asDecl atDecl byDecl, s⟩, h =>
    congrArg (fun e => Relation.mk (.scan e asDecl atDecl byDecl) s) (expr.map_congr h)
  | ⟨.unpivot expr asDecl atDecl byDecl, s⟩, h =>
    congrArg (fun e => Relation.mk (.unpivot e asDecl atDecl byDecl) s) (expr.map_congr h)
  | ⟨.filter predicate source, s⟩, h =>
    congrArg₂ (fun e r => Relation.mk (.filter e r) s) (predicate.map_congr h.right) (source.map_congr h.left)
  | ⟨.join kind left right predicate, s⟩, h => by
    show Relation.mk (.join kind _ _ _) s = ⟨.join kind _ _ _, s⟩
    rw [left.map_congr h.left.left, right.map_congr h.left.right, mapOption_congr predicate h.right]
  | ⟨.letting source bindings, s⟩, h =>
    congrArg₂ (fun r bs => Relation.mk (.letting r bs) s) (source.map_congr h.left) (mapNamed_congr bindings h.right)
  | ⟨.aggregate source keys groupAs, s⟩, h =>
    congrArg₂ (fun r ks => Relation.mk (.aggregate r ks groupAs) s) (source.map_congr h.left)
      (mapNamed_congr keys h.right)
  | ⟨.sort source keys, s⟩, h =>
    congrArg₂ (fun r ks => Relation.mk (.sort r ks) s) (source.map_congr h.left) (mapSortKeys_congr keys h.right)
  | ⟨.offset source rowCount, s⟩, h =>
    congrArg₂ (fun r n => Relation.mk (.offset r n) s) (source.map_congr h.left) (rowCount.map_congr h.right)
  | ⟨.limit source rowCount, s⟩, h =>
    congrArg₂ (fun r n => Relation.mk (.limit r n) s) (source.map_congr h.left) (rowCount.map_congr h.right)
  | ⟨.project source projection quantifier, s⟩, h =>
    congrArg₂ (fun r p => Relation.mk (.project r p quantifier) s) (source.map_congr h.left)
      (projection.map_congr h.right)
  | ⟨.setOp op quantifier left right, s⟩, h =>
    congrArg₂ (fun l r => Relation.mk (.setOp op quantifier l r) s) (left.map_congr h.left) (right.map_congr h.right)

theorem mapNamed_congr : ∀ bindings : List (Named V), AgreeOn f g (varsNamed bindings) →
    mapNamed f bindings = mapNamed g bindings
  | [], _ => rfl
  | ⟨expr, decl⟩ :: rest, h =>
    congrArg₂ (Named.mk · decl :: ·) (expr.map_congr h.left) (mapNamed_congr rest h.right)

theorem mapSortKeys_congr : ∀ keys : List (SortKey V), AgreeOn f g (varsSortKeys keys) →
    mapSortKeys f keys = mapSortKeys g keys
  | [], _ => rfl
  | ⟨expr, order, nulls⟩ :: rest, h =>
    congrArg₂ (SortKey.mk · order nulls :: ·) (expr.map_congr h.left) (mapSortKeys_congr rest h.right)

theorem Projection.map_congr : ∀ p : Projection V, AgreeOn f g p.vars → p.map f = p.map g
  | .value expr, h => congrArg Projection.value (expr.map_congr h)
  | .struct items, h => congrArg Projection.struct (mapItems_congr items h)
  | .pivot value key, h => congrArg₂ Projection.pivot (value.map_congr h.left) (key.map_congr h.right)

theorem mapItems_congr : ∀ items : List (ProjectItem V), AgreeOn f g (varsItems items) →
    mapItems f items = mapItems g items
  | [], _ => rfl
  | .expr expr field :: items, h =>
    congrArg₂ (ProjectItem.expr · field :: ·) (expr.map_congr h.left) (mapItems_congr items h.right)
  | .all expr :: items, h => congrArg₂ (ProjectItem.all · :: ·) (expr.map_congr h.left) (mapItems_congr items h.right)

end

theorem mutations_map_congr : ∀ ms : List (Mutation V),
    AgreeOn f g (ms.flatMap fun m => m.target :: m.rows.vars) → ms.map (Mutation.map f) = ms.map (Mutation.map g)
  | [], _ => rfl
  | ⟨action, _, rows⟩ :: rest, h =>
    congrArg₂ List.cons (congrArg₂ (Mutation.mk action) h.left.head (rows.map_congr h.left.tail))
      (mutations_map_congr rest h.right)

theorem commands_map_congr : ∀ cs : List (Command V), AgreeOn f g (cs.flatMap fun c => c.rows.vars) →
    cs.map (Command.map f) = cs.map (Command.map g)
  | [], _ => rfl
  | ⟨action, targetId, rows⟩ :: rest, h =>
    congrArg₂ List.cons (congrArg (Command.mk action targetId) (rows.map_congr h.left))
      (commands_map_congr rest h.right)

/-- Replacements that agree on the variables of a plan make the same plan. -/
theorem Statement.map_congr : ∀ s : Statement V, AgreeOn f g s.vars → s.map f = s.map g
  | .query expr, h => congrArg Statement.query (expr.map_congr h)
  | .dml mutations, h => congrArg Statement.dml (mutations_map_congr mutations h)
  | .dmlCommands commands, h => congrArg Statement.dmlCommands (commands_map_congr commands h)
  | .exec procedure args, h => congrArg (Statement.exec procedure) (mapList_congr args h)

end

end NestedQuery.Plan
