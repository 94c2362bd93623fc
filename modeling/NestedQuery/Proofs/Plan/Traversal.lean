/-
Two ways through a plan: listing its variables, and replacing what they carry. Both meet the variables in the same
order, also where the replacement has effects and its answers depend on what it was asked before: the replacement is
asked for the variables as they are listed, and the variables of the new plan are its answers. All else stays, the
relations among it. A replacement that changes nothing gives back the plan.
-/
import NestedQuery.Proofs.Plan.Shape
import NestedQuery.Proofs.Plan.Strategies
import Mathlib.Data.List.Forall2

namespace NestedQuery.Plan

variable {U V W σ α β : Type}

/-! ## Relations -/

section Relations

variable (g : V → W)

mutual

theorem Expr.relations_map : ∀ e : Expr V, (e.map g).relations = e.relations.map (Relation.map g)
  | .lit _ => rfl
  | .var _ => rfl
  | .path root steps => append_eq_map root.relations_map (relationsSteps_map steps)
  | .unary _ operand => operand.relations_map
  | .binary _ lhs rhs => append_eq_map lhs.relations_map rhs.relations_map
  | .call _ args => relationsList_map args
  | .callAgg _ _ arg => arg.relations_map
  | .case operand branches otherwise =>
    append_eq_map (append_eq_map (relationsOption_map operand) (relationsBranches_map branches))
      (relationsOption_map otherwise)
  | .collection _ values => relationsList_map values
  | .struct fields => relationsFields_map fields
  | .cast value _ => value.relations_map
  | .query relation => relation.relations_map

theorem relationsList_map :
    ∀ es : List (Expr V), relationsList (mapList g es) = (relationsList es).map (Relation.map g)
  | [] => rfl
  | e :: es => append_eq_map e.relations_map (relationsList_map es)

theorem relationsOption_map :
    ∀ e : Option (Expr V), relationsOption (mapOption g e) = (relationsOption e).map (Relation.map g)
  | none => rfl
  | some e => e.relations_map

theorem relationsSteps_map :
    ∀ steps : List (PathStep V), relationsSteps (mapSteps g steps) = (relationsSteps steps).map (Relation.map g)
  | [] => rfl
  | .key key _ :: steps => append_eq_map key.relations_map (relationsSteps_map steps)
  | .wildcard :: steps => relationsSteps_map steps
  | .unpivot :: steps => relationsSteps_map steps

theorem relationsBranches_map : ∀ branches : List (CaseBranch V),
    relationsBranches (mapBranches g branches) = (relationsBranches branches).map (Relation.map g)
  | [] => rfl
  | ⟨condition, result⟩ :: branches =>
    append_eq_map (append_eq_map condition.relations_map result.relations_map) (relationsBranches_map branches)

theorem relationsFields_map : ∀ fields : List (StructField V),
    relationsFields (mapFields g fields) = (relationsFields fields).map (Relation.map g)
  | [] => rfl
  | ⟨key, value⟩ :: fields =>
    append_eq_map (append_eq_map key.relations_map value.relations_map) (relationsFields_map fields)

theorem Relation.relations_map : ∀ r : Relation V, (r.map g).relations = r.relations.map (Relation.map g)
  | ⟨.unit, _⟩ => rfl
  | ⟨.scan expr .., _⟩ => cons_eq_map rfl expr.relations_map
  | ⟨.unpivot expr .., _⟩ => cons_eq_map rfl expr.relations_map
  | ⟨.filter predicate source, _⟩ => append_eq_map (cons_eq_map rfl source.relations_map) predicate.relations_map
  | ⟨.join _ left right predicate, _⟩ =>
    append_eq_map (append_eq_map (cons_eq_map rfl left.relations_map) right.relations_map)
      (relationsOption_map predicate)
  | ⟨.letting source bindings, _⟩ =>
    append_eq_map (cons_eq_map rfl source.relations_map) (relationsNamed_map bindings)
  | ⟨.aggregate source keys _, _⟩ => append_eq_map (cons_eq_map rfl source.relations_map) (relationsNamed_map keys)
  | ⟨.sort source keys, _⟩ => append_eq_map (cons_eq_map rfl source.relations_map) (relationsSortKeys_map keys)
  | ⟨.offset source rowCount, _⟩ => append_eq_map (cons_eq_map rfl source.relations_map) rowCount.relations_map
  | ⟨.limit source rowCount, _⟩ => append_eq_map (cons_eq_map rfl source.relations_map) rowCount.relations_map
  | ⟨.project source projection _, _⟩ =>
    append_eq_map (cons_eq_map rfl source.relations_map) projection.relations_map
  | ⟨.setOp _ _ left right, _⟩ => append_eq_map (cons_eq_map rfl left.relations_map) right.relations_map

theorem relationsNamed_map : ∀ bindings : List (Named V),
    relationsNamed (mapNamed g bindings) = (relationsNamed bindings).map (Relation.map g)
  | [] => rfl
  | ⟨expr, _⟩ :: rest => append_eq_map expr.relations_map (relationsNamed_map rest)

theorem relationsSortKeys_map : ∀ keys : List (SortKey V),
    relationsSortKeys (mapSortKeys g keys) = (relationsSortKeys keys).map (Relation.map g)
  | [] => rfl
  | ⟨expr, _, _⟩ :: rest => append_eq_map expr.relations_map (relationsSortKeys_map rest)

theorem Projection.relations_map : ∀ p : Projection V, (p.map g).relations = p.relations.map (Relation.map g)
  | .value expr => expr.relations_map
  | .struct items => relationsItems_map items
  | .pivot value key => append_eq_map value.relations_map key.relations_map

theorem relationsItems_map : ∀ items : List (ProjectItem V),
    relationsItems (mapItems g items) = (relationsItems items).map (Relation.map g)
  | [] => rfl
  | .expr expr _ :: items => append_eq_map expr.relations_map (relationsItems_map items)
  | .all expr :: items => append_eq_map expr.relations_map (relationsItems_map items)

end

/-- The relations of a plan whose variables are replaced are its relations with the variables replaced. -/
theorem Statement.relations_map (s : Statement V) : (s.map g).relations = s.relations.map (Relation.map g) := by
  cases s with
  | query expr => exact expr.relations_map g
  | dml mutations =>
    show (mutations.map (Mutation.map g)).flatMap _ = _
    rw [relations, List.flatMap_map, List.map_flatMap]
    simp only [Mutation.map, Expr.relations_map]
  | dmlCommands commands =>
    show (commands.map (Command.map g)).flatMap _ = _
    rw [relations, List.flatMap_map, List.map_flatMap]
    simp only [Command.map, Expr.relations_map]
  | exec procedure args => exact relationsList_map g args

end Relations

/-- The relations have the same operator, by name, and the same strategy. -/
structure Relation.Alike (r : Relation V) (q : Relation W) : Prop where
  operator : q.op.name = r.op.name
  strategy : q.strategy = r.strategy

theorem Relation.alike_map (g : V → W) (r : Relation V) : r.Alike (r.map g) := by
  obtain ⟨op, strategy⟩ := r
  cases op <;> exact ⟨rfl, rfl⟩

/-- Plans of one shape have the same operators and strategies in the same order. -/
theorem Statement.relations_alike {s : Statement V} {t : Statement W} (h : t.shape = s.shape) :
    List.Forall₂ Relation.Alike s.relations t.relations := by
  have hr : s.shape.relations = t.shape.relations := by rw [h]
  unfold shape at hr
  rw [relations_map, relations_map, ← List.forall₂_eq_eq_eq, List.forall₂_map_left_iff,
    List.forall₂_map_right_iff] at hr
  refine hr.imp fun r q hrq => ?_
  have hs := r.alike_map fun _ => ()
  have ht := q.alike_map fun _ => ()
  rw [hrq] at hs
  exact ⟨ht.operator.symm.trans hs.operator, ht.strategy.symm.trans hs.strategy⟩

/-! ## Replacements with a state -/

/-- Any replacement, with nothing seen of its answers: what is left of a plan then is its shape. -/
def Replacement.blind {m : Type → Type} [Monad m] [LawfulMonad m] (f : V → m W) : Replacement m V W Unit where
  ask := f
  seen _ := ()
  expected _ := ()
  answers v γ k := by
    rw [List.mapM_cons, List.mapM_nil, bind_assoc]
    simp only [pure_bind]

theorem Statement.rebuilds_shape {m : Type → Type} [Monad m] [LawfulMonad m] (f : V → m W) (s : Statement V) :
    Rebuilds f Statement.shape Statement.vars (s.mapVarsM f) s.shape s.vars := s.rebuilds_mapVarsM (.blind f)

/-- The replacement `f` with a list of what it was asked for so far. -/
def listing (f : V → StateM σ W) (v : V) : StateM (List V × σ) W := do
  let (asked, s) ← get
  let (w, s') := (f v).run s
  set (asked ++ [v], s')
  return w

/-- Asked for variables one after the other, the list grows by these, and all else is as without the list. -/
theorem run_mapM_listing (f : V → StateM σ W) (vs asked : List V) (s : σ) :
    (vs.mapM (listing f)).run (asked, s) = (((vs.mapM f).run s).1, asked ++ vs, ((vs.mapM f).run s).2) := by
  induction vs generalizing asked s with
  | nil =>
    rw [List.append_nil]
    rfl
  | cons v vs ih =>
    have hvs := ih (asked ++ [v]) ((f v).run s).2
    rw [List.append_assoc, List.singleton_append] at hvs
    rw [List.mapM_cons, List.mapM_cons]
    exact congrArg (fun r => (((f v).run s).1 :: r.1, r.2)) hvs

namespace Statement

/-- A replacement without effects is the plain map. -/
theorem mapVarsM_pure (s : Statement V) (g : V → W) :
    (s.mapVarsM fun v => (pure (g v) : StateM σ W)) = pure (s.map g) := by
  have hg : ∀ v, Walks (fun (st : σ) _ => st) (pure (g v) : StateM σ W) (g v) [v] := fun v st => rfl
  funext st
  have hs := s.walks_mapVarsM hg st
  rw [List.foldl_fixed] at hs
  exact hs

/-- A replacement is asked for the variables of a plan in the order of reading, each time they occur and never else. The
variables of the new plan are its answers in that order. The new plan has the shape of the old one, and so its relations
have the same operators and strategies in the same order. A replacement that changes nothing gives back the plan, and
two without effects, one after the other, are one. -/
theorem mapVarsM_reads (s : Statement V) (f : V → StateM σ W) (before : σ) :
    (∃ t after, (s.mapVarsM f).run before = (t, after) ∧
      ((s.mapVarsM (listing f)).run ([], before)).2 = (s.vars, after) ∧
      (s.vars.mapM f).run before = (t.vars, after) ∧
      t.shape = s.shape ∧ List.Forall₂ Relation.Alike s.relations t.relations) ∧
    (s.mapVarsM fun v => (pure v : StateM σ V)) = pure s ∧
    ∀ (g : V → W) (h : W → U),
      (s.mapVarsM (fun v => (pure (g v) : StateM σ W)) >>= fun t => t.mapVarsM fun w => pure (h w)) =
        s.mapVarsM fun v => pure (h (g v)) := by
  refine ⟨?_, ?_, fun g h => ?_⟩
  · obtain ⟨hshape, hvars⟩ := (s.rebuilds_shape f).run before
    refine ⟨_, _, rfl, ?_, hvars, hshape, relations_alike hshape⟩
    have hlist := ((s.rebuilds_shape (listing f)).run ([], before)).2
    rw [run_mapM_listing, List.nil_append, hvars] at hlist
    exact (congrArg Prod.snd hlist).symm
  · exact (s.mapVarsM_pure id).trans (congrArg pure s.map_id)
  · rw [mapVarsM_pure, pure_bind, mapVarsM_pure, map_map]
    exact (s.mapVarsM_pure (h ∘ g)).symm

end Statement

end NestedQuery.Plan
