/-
Building and resolving a statement binds its variables as plain lexical scoping does. The environment at a place
is read off the plan alone: a name is bound to the nearest group of its block that declares it, else to the
catalog; a FROM source without `@` is bound to the catalog only. What is left to the time of execution keeps all
locals in sight, those of the blocks around it included.
-/
import NestedQuery.Proofs.Logical.Built
import NestedQuery.Proofs.Resolved.Pointwise

namespace NestedQuery

open Lexical (Env)
open Logical (Stands build_records)
open Plan (Item)
open Scope (Recorder Sees)
open Syntax (Mark)

namespace Lexical.Env

/-- What a variable stands for where the environment is this one. It has no meaning if nothing is found for it and
undefined variables are not allowed. -/
def meaning (env : Env) (catalog : Lookup) (allowUndefined : Bool) (role : Role) (v : Syntax.Var) : Option Meaning :=
  let declared := (env.find? v.name).map .loc
  let entity := (catalog v.name).map .global
  let later (globalsFirst : Bool) :=
    if allowUndefined then some (.dynamic v.name globalsFirst env.candidates) else none
  match role, v.qualifier with
  | .dmlTarget, _ => entity
  | .fromSource, .default => entity.or (later true)
  | _, .localsOnly => declared.or (later false)
  | _, .default => declared.or (entity.or (later false))

end Lexical.Env

namespace Resolved

/-- A reference is looked up from its frame as in the environment seen from there. -/
theorem binding_of_sees {r : Recorder} {catalog : Lookup} {allowUndefined : Bool} {scope : Nat} {env : Env}
    (h : Sees r scope env) (role : Role) (v : Syntax.Var) :
    binding ⟨r.tree, r.locals, catalog, allowUndefined⟩ ⟨v.name, v.qualifier, role, scope, v.location⟩ =
      ⟨v.name, env.meaning catalog allowUndefined role v, v.location⟩ := by
  unfold binding answer Env.meaning local? global? dynamic?
  cases role <;> cases v.qualifier <;> simp only [h.findLocal?, h.visibleLocals]

end Resolved

/-- What stands at a place of a resolved plan: a variable that is written there is bound as in the environment of
the place. References that nobody writes, targets of mutations and blocks are the plan's own. -/
inductive LexicallyBound (catalog : Lookup) (allowUndefined : Bool) : Mark → Item Binding → Prop
  | var {v : Syntax.Var} {role : Role} {env : Env} : LexicallyBound catalog allowUndefined (.var v role)
      (.var env ⟨v.name, env.meaning catalog allowUndefined role v, v.location⟩)
  | generated {name : Identifier} {env : Env} {b : Binding} :
      LexicallyBound catalog allowUndefined (.generated name) (.var env b)
  | target {v : Syntax.Var} {b : Binding} : LexicallyBound catalog allowUndefined (.target v) (.target b)
  | select {b : Syntax.Select} {source : Plan.Relation Binding} {projection : Plan.Projection Binding} :
      LexicallyBound catalog allowUndefined (.select b) (.block source projection)
  | rows {use : Syntax.RowUse} {s : Syntax.MutationSource} {source : Plan.Relation Binding}
      {projection : Plan.Projection Binding} :
      LexicallyBound catalog allowUndefined (.rows use s) (.block source projection)

theorem lexicallyBound_of_stands {r : Recorder} {catalog : Lookup} {allowUndefined : Bool} {m : Mark}
    {i : Item Reference} (h : Stands r m i) : LexicallyBound catalog allowUndefined m
      (i.map (Resolved.binding ⟨r.tree, r.locals, catalog, allowUndefined⟩)) := by
  cases h with
  | var h =>
    rw [Item.map, Resolved.binding_of_sees h]
    exact .var
  | generated => exact .generated
  | target => exact .target
  | select => exact .select
  | edited | deleted | inserting | insertingValue => exact .rows

/-- The outline of a resolved plan has all of its bindings, and it follows that of the statement place by place:
every variable of the statement is bound as in the lexical environment of its place. The bindings that stand for
nothing are reported, in the order of reading. -/
theorem resolve_lexical (s : Syntax.Statement) (catalog : Lookup) (allowUndefined : Bool) (earlier : List Problem) :
    let resolved := (LogicalPlan.build s).1.resolve catalog allowUndefined earlier
    Plan.itemVars resolved.1.statement.outline = resolved.1.bindings ∧
      List.Forall₂ (LexicallyBound catalog allowUndefined) s.outline resolved.1.statement.outline ∧
      resolved.2.problems = earlier ++ resolved.1.bindings.flatMap Binding.faults := by
  intro resolved
  refine ⟨resolved.1.statement.itemVars_outline, ?_, LogicalPlan.resolve_problems _ _ _ _⟩
  obtain ⟨r, hr⟩ := build_records s
  rw [LogicalPlan.resolve_statement, Plan.Statement.outline_map, List.forall₂_map_right_iff, LogicalPlan.context,
    ← hr.tree, ← hr.locals]
  exact hr.part.stands.imp fun _ _ h => lexicallyBound_of_stands h

/-- In `SELECT VALUE @s FROM t AS s, @s AS s` the second source sees the first alias, and the projection the
second. -/
example : ((LogicalPlan.build Sample.shadowedAlias).1.resolve (fun _ => none) true []).1.bindings.map (·.meaning) =
    [some (.dynamic (.bare "t") true []), some (.loc 0), some (.loc 1)] := by decide

end NestedQuery
