/-
The leftmost variable of an expression is the first that its plan refers to. What stands in nested queries is left out
on both sides: the search for the variable does not enter them, and the surface of a plan is the plan with its queries
emptied. Searching, planning and reading a plan all go from left to right. So a group key without an alias and without a
location of its own is located at the first reference on the surface of its plan.
-/
import NestedQuery.Plan.Vars
import NestedQuery.Proofs.Logical.Steps
import NestedQuery.Syntax.Compose

namespace NestedQuery

/-! ## The surface of a plan -/

namespace Plan

variable {V : Type}

mutual

/-- An expression with nothing left in its nested queries. -/
def Expr.surface : Expr V → Expr V
  | .lit value => .lit value
  | .var v => .var v
  | .path root steps => .path root.surface (surfaceSteps steps)
  | .unary op operand => .unary op operand.surface
  | .binary op lhs rhs => .binary op lhs.surface rhs.surface
  | .call name args => .call name (surfaceList args)
  | .callAgg name quantifier arg => .callAgg name quantifier arg.surface
  | .case operand branches otherwise =>
    .case (surfaceOption operand) (surfaceBranches branches) (surfaceOption otherwise)
  | .collection kind values => .collection kind (surfaceList values)
  | .struct fields => .struct (surfaceFields fields)
  | .cast value asType => .cast value.surface asType
  | .query _ => .query (.of .unit)

def surfaceList : List (Expr V) → List (Expr V)
  | [] => []
  | e :: es => e.surface :: surfaceList es

def surfaceOption : Option (Expr V) → Option (Expr V)
  | none => none
  | some e => some e.surface

def surfaceSteps : List (PathStep V) → List (PathStep V)
  | [] => []
  | .key key case :: steps => .key key.surface case :: surfaceSteps steps
  | .wildcard :: steps => .wildcard :: surfaceSteps steps
  | .unpivot :: steps => .unpivot :: surfaceSteps steps

def surfaceBranches : List (CaseBranch V) → List (CaseBranch V)
  | [] => []
  | ⟨condition, result⟩ :: branches => ⟨condition.surface, result.surface⟩ :: surfaceBranches branches

def surfaceFields : List (StructField V) → List (StructField V)
  | [] => []
  | ⟨key, value⟩ :: fields => ⟨key.surface, value.surface⟩ :: surfaceFields fields

end

mutual

/-- The variables on the surface are some of all variables, in the same order. -/
theorem Expr.vars_surface_sublist : ∀ e : Expr V, e.surface.vars.Sublist e.vars
  | .lit _ => .refl _
  | .var _ => .refl _
  | .path root steps => root.vars_surface_sublist.append (varsSteps_surface_sublist steps)
  | .unary _ operand => operand.vars_surface_sublist
  | .binary _ lhs rhs => lhs.vars_surface_sublist.append rhs.vars_surface_sublist
  | .call _ args => varsList_surface_sublist args
  | .callAgg _ _ arg => arg.vars_surface_sublist
  | .case operand branches otherwise =>
    ((varsOption_surface_sublist operand).append (varsBranches_surface_sublist branches)).append
      (varsOption_surface_sublist otherwise)
  | .collection _ values => varsList_surface_sublist values
  | .struct fields => varsFields_surface_sublist fields
  | .cast value _ => value.vars_surface_sublist
  | .query _ => List.nil_sublist _

theorem varsList_surface_sublist : ∀ es : List (Expr V), (varsList (surfaceList es)).Sublist (varsList es)
  | [] => .refl _
  | e :: es => e.vars_surface_sublist.append (varsList_surface_sublist es)

theorem varsOption_surface_sublist : ∀ e : Option (Expr V), (varsOption (surfaceOption e)).Sublist (varsOption e)
  | none => .refl _
  | some e => e.vars_surface_sublist

theorem varsSteps_surface_sublist :
    ∀ steps : List (PathStep V), (varsSteps (surfaceSteps steps)).Sublist (varsSteps steps)
  | [] => .refl _
  | .key key _ :: steps => key.vars_surface_sublist.append (varsSteps_surface_sublist steps)
  | .wildcard :: steps => varsSteps_surface_sublist steps
  | .unpivot :: steps => varsSteps_surface_sublist steps

theorem varsBranches_surface_sublist :
    ∀ branches : List (CaseBranch V), (varsBranches (surfaceBranches branches)).Sublist (varsBranches branches)
  | [] => .refl _
  | ⟨condition, result⟩ :: branches =>
    (condition.vars_surface_sublist.append result.vars_surface_sublist).append (varsBranches_surface_sublist branches)

theorem varsFields_surface_sublist :
    ∀ fields : List (StructField V), (varsFields (surfaceFields fields)).Sublist (varsFields fields)
  | [] => .refl _
  | ⟨key, value⟩ :: fields =>
    (key.vars_surface_sublist.append value.vars_surface_sublist).append (varsFields_surface_sublist fields)

end

end Plan

namespace Logical

/-! ## The first reference -/

/-- The first of the references stands at the place. Without a place there are no references. -/
def FirstAt (place : Option Location) (refs : List Reference) : Prop := place = refs.head?.map (·.location)

namespace FirstAt

variable {a b c : Option Location} {as bs cs : List Reference}

theorem nil : FirstAt none [] := rfl

theorem append (ha : FirstAt a as) (hb : FirstAt b bs) : FirstAt (a.or b) (as ++ bs) := by
  unfold FirstAt at *
  rw [ha, hb, List.head?_append, Option.map_or]

theorem append₃ (ha : FirstAt a as) (hb : FirstAt b bs) (hc : FirstAt c cs) :
    FirstAt (a.or (b.or c)) (as ++ bs ++ cs) := Option.or_assoc ▸ (ha.append hb).append hc

theorem eq_none_iff (h : FirstAt a as) : a = none ↔ as = [] := by
  unfold FirstAt at h
  rw [h, Option.map_eq_none_iff, List.head?_eq_none_iff]

end FirstAt

/-! ## Expressions -/

mutual

theorem planExpr_firstAt : ∀ (role : Role) (e : Syntax.Expr) (s : BuildState),
    FirstAt e.firstVar? ((planExpr role e).run s).1.surface.vars
  | _, .lit _, _ => .nil
  | _, .var _, _ => rfl
  | _, .path root steps, _ => (planExpr_firstAt .expression root _).append (planSteps_firstAt steps _)
  | _, .unary _ operand, _ => planExpr_firstAt .expression operand _
  | _, .binary _ lhs rhs, _ => (planExpr_firstAt .expression lhs _).append (planExpr_firstAt .expression rhs _)
  | _, .call _ args, _ => planExprs_firstAt args _
  | _, .callAgg _ _ arg, _ => planExpr_firstAt .expression arg _
  | _, .case operand branches otherwise, _ =>
    (planOption_firstAt operand _).append₃ (planBranches_firstAt branches _) (planOption_firstAt otherwise _)
  | _, .collection _ values, _ => planExprs_firstAt values _
  | _, .struct fields, _ => planFields_firstAt fields _
  | _, .cast value _, _ => planExpr_firstAt .expression value _
  -- both become nested queries
  | _, .select _, _ => .nil
  | _, .bagOp .., _ => .nil

theorem planExprs_firstAt : ∀ (es : List Syntax.Expr) (s : BuildState),
    FirstAt (Syntax.firstVarList? es) (Plan.varsList (Plan.surfaceList ((planExprs es).run s).1))
  | [], _ => .nil
  | e :: es, _ => (planExpr_firstAt .expression e _).append (planExprs_firstAt es _)

theorem planOption_firstAt : ∀ (e : Option Syntax.Expr) (s : BuildState),
    FirstAt (Syntax.firstVarOption? e) (Plan.varsOption (Plan.surfaceOption ((planOption e).run s).1))
  | none, _ => .nil
  | some e, _ => planExpr_firstAt .expression e _

/-- The key of a field name is a constant. -/
theorem planSteps_firstAt : ∀ (steps : List Syntax.PathStep) (s : BuildState),
    FirstAt (Syntax.firstVarSteps? steps) (Plan.varsSteps (Plan.surfaceSteps ((planSteps steps).run s).1))
  | [], _ => .nil
  | .field _ :: steps, _ => planSteps_firstAt steps _
  | .index key :: steps, _ => (planExpr_firstAt .expression key _).append (planSteps_firstAt steps _)
  | .wildcard :: steps, _ => planSteps_firstAt steps _
  | .unpivot :: steps, _ => planSteps_firstAt steps _

theorem planBranches_firstAt : ∀ (branches : List Syntax.CaseBranch) (s : BuildState),
    FirstAt (Syntax.firstVarBranches? branches)
      (Plan.varsBranches (Plan.surfaceBranches ((planBranches branches).run s).1))
  | [], _ => .nil
  | ⟨condition, result⟩ :: branches, _ =>
    (planExpr_firstAt .expression condition _).append₃ (planExpr_firstAt .expression result _)
      (planBranches_firstAt branches _)

theorem planFields_firstAt : ∀ (fields : List Syntax.StructField) (s : BuildState),
    FirstAt (Syntax.firstVarFields? fields) (Plan.varsFields (Plan.surfaceFields ((planFields fields).run s).1))
  | [], _ => .nil
  | ⟨key, value⟩ :: fields, _ =>
    (planExpr_firstAt .expression key _).append₃ (planExpr_firstAt .expression value _) (planFields_firstAt fields _)

end

/-! ## Group keys -/

/-- What becomes of a group key. -/
structure KeyLocated (key : Syntax.GroupKey) (named : Plan.Named Reference) : Prop where
  expr : ∃ s, named.expr = ((planExpr .expression key.expr).run s).1
  /-- Without a location of its own, the key is where its first reference outside of nested queries is. -/
  place : key.location = none → key.place = (named.expr.surface.vars.head?.map (·.location)).getD {}
  /-- Without an alias, the local of the key is declared where the key is. -/
  decl : key.asAlias = none → named.decl.location = key.place

theorem KeyLocated.of_run (key : Syntax.GroupKey) (name : Identifier) (s t : BuildState) :
    KeyLocated key
      ⟨((planExpr .expression key.expr).run s).1, ((declareOr key.asAlias name key.place).run t).1⟩ where
  expr := ⟨s, rfl⟩
  place h := by
    unfold Syntax.GroupKey.place
    rw [h, Option.none_or, planExpr_firstAt .expression key.expr s]
  decl h := by rw [declareOr_location, h, Option.map_none, Option.getD_none]

/-- Keys are planned one after the other, and their locals are declared after that. -/
theorem planKeys_located (keys : List Syntax.GroupKey) (ordinal : Nat) (s t : BuildState) :
    List.Forall₂ KeyLocated keys (nameAll ((planKeys keys).run s).1 ((declareKeys ordinal keys).run t).1) := by
  induction keys generalizing ordinal s t with
  | nil => exact .nil
  | cons key keys ih =>
    obtain ⟨expr, asAlias, location⟩ := key
    exact .cons (.of_run ⟨expr, asAlias, location⟩ _ s t) (ih (ordinal + 1) _ _)

/-- The search for the leftmost variable finds the place of the first reference on the surface of the plan, and nothing
if there is none. A GROUP BY clause declares the local of a key without an alias there, unless the key says where
it is. -/
theorem planExpr_leftmost (s : BuildState) :
    (∀ (role : Role) (e : Syntax.Expr),
      let plan := ((planExpr role e).run s).1
      e.firstVar? = plan.surface.vars.head?.map (·.location) ∧
        (e.firstVar? = none ↔ plan.surface.vars = []) ∧ plan.surface.vars.Sublist plan.vars) ∧
    ∀ (keys : List Syntax.GroupKey) (groupAs : Option Syntax.Alias),
      ∃ g, ((planGroup (some ⟨keys, groupAs⟩)).run s).1 = some g ∧ List.Forall₂ KeyLocated keys g.keys := by
  refine ⟨fun role e => ?_, fun keys groupAs => ⟨_, rfl, planKeys_located keys 1 s _⟩⟩
  have h := planExpr_firstAt role e s
  exact ⟨h, h.eq_none_iff, Plan.Expr.vars_surface_sublist _⟩

/-- The key of `GROUP BY (SELECT VALUE u.a FROM u) + x[i]`. -/
def keyAfterSubquery : Syntax.GroupKey :=
  ⟨.binary .add
    (.select ((Syntax.Select.ofProjection (.value (.fields (.bare "u" ⟨1, 24⟩) ["a"]))).addFrom
      (.scan ⟨.bare "u" ⟨1, 33⟩, none, none, none, ⟨1, 33⟩⟩)))
    (.path (.bare "x" ⟨1, 38⟩) [.index (.bare "i" ⟨1, 40⟩)]), none, none⟩

/-- The key is located at `x`, though the first reference of its plan is the `u` of the subquery. -/
theorem planExpr_leftmost_keyAfterSubquery :
    ∃ named : Plan.Named Reference, named.decl.location = ⟨1, 38⟩ ∧
      named.expr.vars.map (·.location) = [⟨1, 33⟩, ⟨1, 24⟩, ⟨1, 38⟩, ⟨1, 40⟩] ∧
      ∃ g, ((planGroup (some ⟨[keyAfterSubquery], none⟩)).run .start).1 = some g ∧ g.keys = [named] := by
  obtain ⟨g, hg, hk⟩ := (planExpr_leftmost .start).2 [keyAfterSubquery] none
  cases hg
  cases hk with
  | cons h _ => exact ⟨_, (h.decl rfl).trans (h.place rfl), rfl, _, rfl, rfl⟩

end Logical

end NestedQuery
