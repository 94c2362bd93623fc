/-
Binding one reference at a time. What a reference stands for does not depend on the references bound before it,
so a resolved plan is the logical plan with each reference replaced by its binding. The problems added are those
of the bindings that stand for nothing, and the questions put to the catalog are those of the references, both in
the order of reading.
-/
import NestedQuery.Resolved.Resolve
import NestedQuery.Proofs.Plan.Replacement

namespace NestedQuery

/-- What is reported for a binding: nothing, unless it stands for nothing. -/
def Binding.faults (b : Binding) : List Problem := if b.isResolved then [] else [⟨b.location, .undefined b.name⟩]

namespace Resolved

/-- The entity of the catalog that a reference is bound to. -/
def global? (c : Context) (r : Reference) : Option Meaning := (c.catalog r.name).map .global

/-- What a reference stands for, whatever the log. -/
def answer (c : Context) (r : Reference) : Option Meaning :=
  match r.role, r.qualifier with
  | .dmlTarget, _ => global? c r
  | .fromSource, .default => (global? c r).or (dynamic? c r true)
  | _, .localsOnly => (local? c r).or (dynamic? c r false)
  | _, .default => (local? c r).or ((global? c r).or (dynamic? c r false))

def binding (c : Context) (r : Reference) : Binding := ⟨r.name, answer c r, r.location⟩

/-- The questions that a reference puts to the catalog, whatever the catalog. -/
def posed (c : Context) (r : Reference) : List Identifier :=
  match r.role, r.qualifier with
  | .dmlTarget, _ => [r.name]
  | .fromSource, .default => [r.name]
  | _, .localsOnly => []
  | _, .default => if (local? c r).isSome then [] else [r.name]

/-- Looking a reference up puts its questions to the catalog and does nothing else to the log. -/
theorem meaning_run (c : Context) (r : Reference) (log : Log) :
    (meaning c r).run log = (answer c r, ⟨log.problems, log.questions ++ posed c r⟩) := by
  have hn : log = ⟨log.problems, log.questions ++ []⟩ := by rw [List.append_nil]
  unfold meaning answer posed
  cases r.role with
  | expression =>
    cases r.qualifier with
    | localsOnly => exact congrArg (Prod.mk _) hn
    | default =>
      cases local? c r with
      | some l => exact congrArg (Prod.mk _) hn
      | none => rfl
  | fromSource =>
    cases r.qualifier with
    | localsOnly => exact congrArg (Prod.mk _) hn
    | default => rfl
  | dmlTarget => rfl

theorem bind_run (c : Context) (r : Reference) (log : Log) :
    (bind c r).run log =
      (binding c r, ⟨log.problems ++ (binding c r).faults, log.questions ++ posed c r⟩) := by
  unfold bind binding Binding.faults Binding.isResolved
  rw [StateT.run_bind, meaning_run]
  cases answer c r with
  | none => rfl
  | some m => simp; rfl

/-- The log after a reference is bound. -/
def logAfter (c : Context) (log : Log) (r : Reference) : Log := ((bind c r).run log).2

theorem walks_bind (c : Context) (r : Reference) : Plan.Walks (logAfter c) (bind c r) (binding c r) [r] := by
  intro log
  rw [List.foldl_cons, List.foldl_nil, logAfter, bind_run]

/-- References bound one after the other add their problems and questions to the log. -/
theorem foldl_logAfter (c : Context) : ∀ (rs : List Reference) (log : Log), rs.foldl (logAfter c) log =
    ⟨log.problems ++ (rs.map (binding c)).flatMap Binding.faults, log.questions ++ rs.flatMap (posed c)⟩
  | [], log => by rw [List.map_nil, List.flatMap_nil, List.flatMap_nil, List.append_nil, List.append_nil]; rfl
  | r :: rs, log => by
    rw [List.foldl_cons, foldl_logAfter c rs, logAfter, bind_run, List.map_cons, List.flatMap_cons, List.flatMap_cons,
      List.append_assoc, List.append_assoc]

end Resolved

namespace LogicalPlan

variable (p : LogicalPlan) (catalog : Lookup) (allowUndefined : Bool) (earlier : List Problem)

/-- What binding the references of a plan refers to. -/
def context : Resolved.Context := ⟨p.scopes, p.locals, catalog, allowUndefined⟩

/-- Resolving replaces each reference by its binding. It reports the bindings that stand for nothing and puts the
questions of the references to the catalog, both in the order of reading. -/
theorem resolve_eq : p.resolve catalog allowUndefined earlier =
    (⟨p.statement.map (Resolved.binding (p.context catalog allowUndefined)), p.locals⟩,
      ⟨earlier ++ (p.statement.vars.map (Resolved.binding (p.context catalog allowUndefined))).flatMap Binding.faults,
        p.statement.vars.flatMap (Resolved.posed (p.context catalog allowUndefined))⟩) := by
  have h := p.statement.walks_mapVarsM (Resolved.walks_bind (p.context catalog allowUndefined)) ⟨earlier, []⟩
  rw [Resolved.foldl_logAfter, List.nil_append] at h
  exact congrArg (fun x => (ResolvedPlan.mk x.1 p.locals, x.2)) h

theorem resolve_statement : (p.resolve catalog allowUndefined earlier).1.statement =
    p.statement.map (Resolved.binding (p.context catalog allowUndefined)) := by
  rw [resolve_eq]

theorem resolve_problems : (p.resolve catalog allowUndefined earlier).2.problems =
    earlier ++ (p.resolve catalog allowUndefined earlier).1.bindings.flatMap Binding.faults := by
  rw [ResolvedPlan.bindings, resolve_eq, Plan.Statement.vars_map]

end LogicalPlan

end NestedQuery
