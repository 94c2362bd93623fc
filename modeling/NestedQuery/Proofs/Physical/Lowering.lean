/-
What making a plan ready for execution does to it. Every operator without a strategy gets the one given, and all
else of the expressions stays: their operators in order, and their variables. Mutations become commands, which no
longer refer to their targets. A plan that is ready stays as it is, whatever the strategy given.
-/
import NestedQuery.Physical.Lower
import NestedQuery.Proofs.Plan.Strategies
import Mathlib.Data.List.Forall2

namespace NestedQuery

namespace Plan

variable {V : Type}

/-! ## Filled expressions -/

/-- An expression without its strategies. -/
def Expr.erase (e : Expr V) : Expr V := e.mapStrategies fun _ => none

/-- An operator without the strategies inside of it. -/
def RelOp.erase (op : RelOp V) : RelOp V := op.mapStrategies fun _ => none

/-- The second relation is the first with strategies: the operator is the same, and it keeps the strategy it had or
takes `s`. -/
structure Fills (s : Strategy) (a b : Relation V) : Prop where
  op : b.op.erase = a.op.erase
  strategy : b.strategy = some (a.strategy.getD s)

namespace Expr

/-- What is filled stays as it is. -/
theorem fill_fill (s t : Strategy) (e : Expr V) : (e.fill s).fill t = e.fill s := by
  have hc : t.ifNone ∘ s.ifNone = s.ifNone := by
    funext chosen
    cases chosen <;> rfl
  rw [fill, fill, mapStrategies_comp, hc]

theorem erase_fill (s : Strategy) (e : Expr V) : (e.fill s).erase = e.erase :=
  e.mapStrategies_comp s.ifNone fun _ => none

/-- Where no strategy is missing there is nothing to fill. -/
theorem fill_of_isSome (s : Strategy) {e : Expr V} (h : ∀ r ∈ e.relations, r.strategy.isSome = true) :
    e.fill s = e := by
  refine e.mapStrategies_eq_self fun r hr => ?_
  obtain ⟨chosen, hc⟩ := Option.isSome_iff_exists.1 (h r hr)
  dsimp only
  rw [hc]
  rfl

theorem vars_fill (s : Strategy) (e : Expr V) : (e.fill s).vars = e.vars := e.vars_mapStrategies s.ifNone

/-- The relations of an expression are filled one by one. -/
theorem fills_relations (s : Strategy) (e : Expr V) : List.Forall₂ (Fills s) e.relations (e.fill s).relations := by
  rw [fill, relations_mapStrategies, List.forall₂_map_right_iff, List.forall₂_same]
  rintro ⟨op, strategy⟩ -
  exact ⟨op.mapStrategies_comp s.ifNone fun _ => none, rfl⟩

end Expr

/-! ## The expressions of a statement -/

theorem varsList_eq_flatMap (es : List (Expr V)) : varsList es = es.flatMap Expr.vars := by
  induction es with
  | nil => rfl
  | cons e es ih => exact congrArg (e.vars ++ ·) ih

theorem relationsList_eq_flatMap (es : List (Expr V)) : relationsList es = es.flatMap Expr.relations := by
  induction es with
  | nil => rfl
  | cons e es ih => exact congrArg (e.relations ++ ·) ih

theorem mapStrategiesList_eq_map (f : Option Strategy → Option Strategy) (es : List (Expr V)) :
    mapStrategiesList f es = es.map (Expr.mapStrategies f) := by
  induction es with
  | nil => rfl
  | cons e es ih => exact congrArg (e.mapStrategies f :: ·) ih

namespace Statement

/-- The expressions of a statement, the rows of its mutations and commands among them. -/
def exprs : Statement V → List (Expr V)
  | .query expr => [expr]
  | .dml mutations => mutations.map (·.rows)
  | .dmlCommands commands => commands.map (·.rows)
  | .exec _ args => args

/-- The variables of a statement in the order of reading, but for the targets of its mutations. -/
def rowVars : Statement V → List V
  | .dml mutations => mutations.flatMap fun m => m.rows.vars
  | s => s.vars

theorem relations_eq_flatMap (s : Statement V) : s.relations = s.exprs.flatMap Expr.relations := by
  cases s with
  | query expr => exact (List.append_nil _).symm
  | dml mutations => exact (List.flatMap_map ..).symm
  | dmlCommands commands => exact (List.flatMap_map ..).symm
  | exec procedure args => exact relationsList_eq_flatMap args

theorem rowVars_eq_flatMap (s : Statement V) : s.rowVars = s.exprs.flatMap Expr.vars := by
  cases s with
  | query expr => exact (List.append_nil _).symm
  | dml mutations => exact (List.flatMap_map ..).symm
  | dmlCommands commands => exact (List.flatMap_map ..).symm
  | exec procedure args => exact varsList_eq_flatMap args

/-- Without mutations there are no targets. -/
theorem rowVars_eq_vars {s : Statement V} (h : ∀ mutations, s ≠ .dml mutations) : s.rowVars = s.vars := by
  cases s with
  | dml mutations => exact absurd rfl (h mutations)
  | query | dmlCommands | exec => rfl

theorem mem_vars_of_mem_rowVars {s : Statement V} {v : V} (h : v ∈ s.rowVars) : v ∈ s.vars := by
  cases s with
  | dml mutations =>
    obtain ⟨m, hm, hv⟩ := List.mem_flatMap.1 h
    exact List.mem_flatMap.2 ⟨m, hm, List.mem_cons_of_mem _ hv⟩
  | query | dmlCommands | exec => exact h

/-- A statement whose expressions are filled is filled. -/
theorem fill_eq_self {t : Strategy} {s : Statement V} (h : ∀ e ∈ s.exprs, e.fill t = e) : s.fill t = s := by
  cases s with
  | query expr => exact congrArg Statement.query (h expr (List.mem_singleton_self expr))
  | dml mutations =>
    have hm : ∀ m ∈ mutations, { m with rows := m.rows.fill t } = m := by
      intro m hm
      rw [h m.rows (List.mem_map_of_mem hm)]
    exact congrArg Statement.dml ((List.map_congr_left hm).trans (List.map_id mutations))
  | dmlCommands commands =>
    have hc : ∀ c ∈ commands, { c with rows := c.rows.fill t } = c := by
      intro c hc
      rw [h c.rows (List.mem_map_of_mem hc)]
    exact congrArg Statement.dmlCommands ((List.map_congr_left hc).trans (List.map_id commands))
  | exec procedure args =>
    rw [fill, mapStrategies, mapStrategiesList_eq_map]
    exact congrArg (Statement.exec procedure) ((List.map_congr_left h).trans (List.map_id args))

end Statement

end Plan

/-! ## Commands -/

namespace Physical

open Plan (Command Mutation Statement Strategy)

variable {s : Strategy}

theorem command_eq_ok {m : Mutation Binding} {c : Command Binding} (h : command s m = .ok c) :
    ∃ id, m.target.globalId? = some id ∧ c = ⟨m.action.name, id, m.rows.fill s⟩ := by
  unfold command at h
  split at h
  · next id hid =>
    cases h
    exact ⟨id, hid, rfl⟩
  · cases h

/-- Mutations become commands one by one. -/
theorem commands_eq_ok : ∀ {ms : List (Mutation Binding)} {cs : List (Command Binding)}, commands s ms = .ok cs →
    List.Forall₂ (fun m c => ∃ id, m.target.globalId? = some id ∧ c = ⟨m.action.name, id, m.rows.fill s⟩) ms cs
  | [], cs, h => by
    cases h
    exact .nil
  | m :: ms, cs, h => by
    unfold commands at h
    cases hc : command s m with
    | error e =>
      rw [hc] at h
      cases h
    | ok c =>
      cases hr : commands s ms with
      | error e =>
        rw [hc, hr] at h
        cases h
      | ok rest =>
        rw [hc, hr] at h
        cases h
        exact .cons (command_eq_ok hc) (commands_eq_ok hr)

/-- The rows of the commands are those of the mutations, filled. -/
theorem commands_rows {ms : List (Mutation Binding)} {cs : List (Command Binding)} (h : commands s ms = .ok cs) :
    cs.map (·.rows) = (ms.map (·.rows)).map (Plan.Expr.fill s) := by
  have hf := commands_eq_ok h
  clear h
  induction hf with
  | nil => rfl
  | cons hm _ ih =>
    obtain ⟨id, -, rfl⟩ := hm
    rw [List.map_cons, List.map_cons, List.map_cons, ih]

/-- A statement that is ready has the expressions of the statement it is made from, filled. -/
theorem statement_exprs {x y : Statement Binding} (h : statement s x = .ok y) :
    y.exprs = x.exprs.map (Plan.Expr.fill s) := by
  cases x with
  | query expr =>
    cases h
    rfl
  | dml mutations =>
    cases hc : commands s mutations with
    | error e =>
      rw [statement, hc] at h
      cases h
    | ok cs =>
      rw [statement, hc] at h
      cases h
      exact commands_rows hc
  | dmlCommands commands =>
    cases h
    simp only [Statement.fill, Statement.mapStrategies, Statement.exprs, List.map_map]
    rfl
  | exec procedure args =>
    cases h
    exact Plan.mapStrategiesList_eq_map _ args

/-- A statement that is ready has no mutations left. -/
theorem statement_ne_dml {x y : Statement Binding} (h : statement s x = .ok y)
    (mutations : List (Plan.Mutation Binding)) : y ≠ .dml mutations := by
  rintro rfl
  cases x with
  | dml given => cases hc : commands s given <;> rw [statement, hc] at h <;> cases h
  | query | dmlCommands | exec => cases h

/-- A statement without mutations whose expressions are filled is ready. -/
theorem statement_eq_self {x : Statement Binding} (hx : ∀ mutations, x ≠ .dml mutations)
    (he : ∀ e ∈ x.exprs, e.fill s = e) : statement s x = .ok x := by
  have hf : statement s x = .ok (x.fill s) := by
    cases x with
    | dml mutations => exact absurd rfl (hx mutations)
    | query | dmlCommands | exec => rfl
  rw [hf, x.fill_eq_self he]

end Physical

namespace ResolvedPlan

variable {p q : ResolvedPlan} {s : Plan.Strategy}

theorem lower_eq_ok (h : p.lower s = .ok q) :
    Physical.statement s p.statement = .ok q.statement ∧ q.locals = p.locals := by
  unfold lower at h
  cases hx : Physical.statement s p.statement with
  | error e =>
    rw [hx] at h
    cases h
  | ok x =>
    rw [hx] at h
    cases h
    exact ⟨rfl, rfl⟩

/-- A plan that is made ready no longer refers to the targets of its mutations. -/
theorem vars_lower (h : p.lower s = .ok q) : q.statement.vars = p.statement.rowVars := by
  have he := Physical.statement_exprs (lower_eq_ok h).1
  have hn := Physical.statement_ne_dml (lower_eq_ok h).1
  rw [← Plan.Statement.rowVars_eq_vars hn, Plan.Statement.rowVars_eq_flatMap, Plan.Statement.rowVars_eq_flatMap, he,
    List.flatMap_map]
  simp only [Plan.Expr.vars_fill]

theorem fills_lower (h : p.lower s = .ok q) :
    List.Forall₂ (Plan.Fills s) p.statement.relations q.statement.relations := by
  rw [Plan.Statement.relations_eq_flatMap, Plan.Statement.relations_eq_flatMap,
    Physical.statement_exprs (lower_eq_ok h).1]
  induction p.statement.exprs with
  | nil => exact .nil
  | cons e es ih => exact List.rel_append (e.fills_relations s) ih

theorem exprs_lower_of_allHaveStrategy (h : p.lower s = .ok q) (hs : p.statement.allHaveStrategy = true) :
    q.statement.exprs = p.statement.exprs := by
  unfold Plan.Statement.allHaveStrategy at hs
  rw [List.all_eq_true, Plan.Statement.relations_eq_flatMap] at hs
  have he : ∀ e ∈ p.statement.exprs, e.fill s = e := fun e he =>
    Plan.Expr.fill_of_isSome s fun r hr => hs r (List.mem_flatMap.2 ⟨e, he, hr⟩)
  rw [Physical.statement_exprs (lower_eq_ok h).1]
  exact (List.map_congr_left he).trans (List.map_id _)

/-- A plan that is ready stays as it is. -/
theorem lower_lower (h : p.lower s = .ok q) (t : Plan.Strategy) : q.lower t = .ok q := by
  have he := Physical.statement_exprs (lower_eq_ok h).1
  have hn := Physical.statement_ne_dml (lower_eq_ok h).1
  have hx : Physical.statement t q.statement = .ok q.statement := by
    refine Physical.statement_eq_self hn fun e hm => ?_
    rw [he] at hm
    obtain ⟨e, -, rfl⟩ := List.mem_map.1 hm
    exact e.fill_fill s t
  unfold lower
  rw [hx]
  rfl

end ResolvedPlan

open ResolvedPlan (exprs_lower_of_allHaveStrategy fills_lower lower_eq_ok lower_lower vars_lower)

/-- Making a plan ready keeps its locals. Its relations are those of the plan in the same order, each with the strategy
it had or else the one given; without strategies, its expressions are those of the plan, and with them too if none was
missing. Its variables are those of the plan but for the targets of mutations. Making it ready once more changes
nothing. -/
theorem ResolvedPlan.lower_fills {p q : ResolvedPlan} {s : Plan.Strategy} (h : p.lower s = .ok q) :
    q.locals = p.locals ∧
      List.Forall₂ (Plan.Fills s) p.statement.relations q.statement.relations ∧
      q.statement.exprs.map Plan.Expr.erase = p.statement.exprs.map Plan.Expr.erase ∧
      (p.statement.allHaveStrategy = true → q.statement.exprs = p.statement.exprs) ∧
      q.statement.vars = p.statement.rowVars ∧
      ∀ t, q.lower t = .ok q := by
  refine ⟨(lower_eq_ok h).2, fills_lower h, ?_, exprs_lower_of_allHaveStrategy h, vars_lower h, lower_lower h⟩
  rw [Physical.statement_exprs (lower_eq_ok h).1, List.map_map]
  exact List.map_congr_left fun e _ => e.erase_fill s

/-- An insertion of a value whose path has a query for a key. One of the two operators of the query has a strategy. -/
def keyedPlan : ResolvedPlan where
  statement := .dml [⟨.insert, ⟨.bare "t", some (.global "7"), ⟨1, 13⟩⟩,
    .path (.var ⟨.bare "x", some (.loc 0), ⟨1, 15⟩⟩)
      [.key (.query ⟨.filter (.lit (.boolean true)) ⟨.unit, none⟩, some ⟨"hash"⟩⟩) .sensitive]⟩]
  locals := [⟨.bare "x", 0⟩]

/-- The operator that has a strategy keeps it, and the target is gone from the variables. -/
theorem ResolvedPlan.lower_fills_keyedPlan : ∃ q, keyedPlan.lower ⟨"scan"⟩ = .ok q ∧
    List.Forall₂ (Plan.Fills ⟨"scan"⟩) keyedPlan.statement.relations q.statement.relations ∧
    q.statement.relations.map (·.strategy) = [some ⟨"hash"⟩, some ⟨"scan"⟩] ∧
    q.statement.vars = [⟨.bare "x", some (.loc 0), ⟨1, 15⟩⟩] ∧ q.lower .default = .ok q := by
  obtain ⟨q, hq⟩ : ∃ q, keyedPlan.lower ⟨"scan"⟩ = .ok q := ⟨_, rfl⟩
  obtain ⟨-, hr, -, -, hv, hl⟩ := ResolvedPlan.lower_fills hq
  refine ⟨q, hq, hr, ?_, hv, hl .default⟩
  cases hq
  rfl

end NestedQuery
