/-
The case rules of aliases in compilation. Statements that differ only in the case rules of their aliases compile alike,
with any catalog and any settings: the same is reported, each reference is bound to the same, and one plan can be made
ready exactly if the other can. Only the case rules of declarations and locals differ, which nothing reads.
-/
import NestedQuery.Compilation
import NestedQuery.Proofs.Logical.Uncased
import NestedQuery.Sample.Catalogs
import NestedQuery.Syntax.Compose

namespace NestedQuery

/-! ## Binding -/

namespace Resolved

/-- The context with its locals made bare. -/
def Context.uncased (c : Context) : Context := { c with locals := c.locals.map Local.uncased }

/-- References are bound by the texts of the locals. -/
theorem bind_uncased (c : Context) : bind c.uncased = bind c := by
  have hnames (name : Identifier) :
      Scope.Tree.namesLocal (c.locals.map Local.uncased) name = Scope.Tree.namesLocal c.locals name := by
    funext index
    unfold Scope.Tree.namesLocal
    rw [List.getElem?_map]
    cases c.locals[index]? <;> rfl
  have hlocal : local? c.uncased = local? c := by
    funext r
    show (Scope.Tree.findLocal? c.scopes (c.locals.map Local.uncased) r.name r.scope).map _ = _
    unfold Scope.Tree.findLocal?
    rw [hnames]
    rfl
  have hmeaning : meaning c.uncased = meaning c := by
    funext r
    unfold meaning
    rw [hlocal]
    rfl
  funext r
  unfold bind
  rw [hmeaning]

end Resolved

namespace ResolvedPlan

/-- The plan with its declarations and locals made bare. -/
def uncased (p : ResolvedPlan) : ResolvedPlan :=
  ⟨p.statement.mapDecls Declaration.uncased, p.locals.map Local.uncased⟩

end ResolvedPlan

namespace LogicalPlan

/-- The plan with its declarations and locals made bare. -/
def uncased (p : LogicalPlan) : LogicalPlan :=
  { p with statement := p.statement.mapDecls Declaration.uncased, locals := p.locals.map Local.uncased }

theorem build_uncased (s : Syntax.Statement) :
    (build s).1.uncased = (build (s.mapAliases Syntax.Alias.uncased)).1.uncased ∧
      (build s).2 = (build (s.mapAliases Syntax.Alias.uncased)).2 := by
  obtain ⟨hs, ht⟩ := Logical.planStatement_alike s .start .start rfl
  refine ⟨?_, (congrArg Logical.BuildState.problems ht :)⟩
  have hlocals := congrArg (fun t : Logical.BuildState => t.scopes.locals) ht
  have htree := congrArg (fun t : Logical.BuildState => t.scopes.tree) ht
  exact (congrArg (LogicalPlan.mk · _ _) hs).trans (congrArg₂ (LogicalPlan.mk _) hlocals htree)

/-- Resolving the plan made bare leads to the same questions and problems, and to the plan made bare. -/
theorem resolve_uncased (p : LogicalPlan) (catalog : Lookup) (allowUndefined : Bool) (earlier : List Problem) :
    p.uncased.resolve catalog allowUndefined earlier =
      ((p.resolve catalog allowUndefined earlier).1.uncased, (p.resolve catalog allowUndefined earlier).2) := by
  let context : Resolved.Context := ⟨p.scopes, p.locals, catalog, allowUndefined⟩
  have h := p.statement.tracks_mapVarsM Declaration.uncased (Resolved.bind context) ⟨earlier, []⟩
  have hb : p.uncased.statement.mapVarsM (Resolved.bind context.uncased) =
      (p.statement.mapDecls Declaration.uncased).mapVarsM (Resolved.bind context) := by
    rw [Resolved.bind_uncased]
    rfl
  exact congrArg (fun x => (ResolvedPlan.mk x.1 (p.locals.map Local.uncased), x.2)) (hb ▸ h)

end LogicalPlan

/-! ## Making a plan ready -/

namespace Physical

variable (strategy : Plan.Strategy) (f : Declaration → Declaration)

theorem command_mapDecls (m : Plan.Mutation Binding) :
    command strategy (m.mapDecls f) = (command strategy m).map (Plan.Command.mapDecls f) := by
  obtain ⟨action, target, rows⟩ := m
  unfold command Plan.Mutation.mapDecls
  dsimp only
  cases target.globalId? with
  | none => rfl
  | some id => exact congrArg (fun x => Except.ok (Plan.Command.mk action.name id x)) (rows.mapStrategies_mapDecls f _)

theorem commands_mapDecls : ∀ ms : List (Plan.Mutation Binding),
    commands strategy (ms.map (Plan.Mutation.mapDecls f)) =
      (commands strategy ms).map (List.map (Plan.Command.mapDecls f))
  | [] => rfl
  | m :: ms => by
    rw [List.map_cons, commands, commands, command_mapDecls, commands_mapDecls ms]
    cases command strategy m with
    | error e => rfl
    | ok c => cases commands strategy ms <;> rfl

theorem statement_mapDecls (s : Plan.Statement Binding) :
    statement strategy (s.mapDecls f) = (statement strategy s).map (Plan.Statement.mapDecls f) := by
  cases s with
  | dml ms =>
    show (commands strategy (ms.map _) >>= _) = _
    rw [commands_mapDecls, statement]
    cases commands strategy ms <;> rfl
  | query | dmlCommands | exec => exact congrArg Except.ok (Plan.Statement.mapStrategies_mapDecls f _ _)

end Physical

/-! ## Compilation -/

/-- The compilation with its declarations and locals made bare. -/
def Compilation.uncased (c : Compilation) : Compilation where
  resolved := c.resolved.mapDecls Declaration.uncased
  locals := c.locals.map Local.uncased
  physical := c.physical.map (Plan.Statement.mapDecls Declaration.uncased)
  problems := c.problems

namespace Compiler

theorem analyse_uncased (c : Compiler) (s : Syntax.Statement) :
    (c.analyse s).1.uncased = (c.analyse (s.mapAliases Syntax.Alias.uncased)).1.uncased ∧
      (c.analyse s).2 = (c.analyse (s.mapAliases Syntax.Alias.uncased)).2 := by
  obtain ⟨hplan, hproblems⟩ := LogicalPlan.build_uncased s
  have h := congrArg (LogicalPlan.resolve · c.catalog c.config.allowUndefined (LogicalPlan.build s).2) hplan
  rw [LogicalPlan.resolve_uncased, LogicalPlan.resolve_uncased] at h
  show _ = (LogicalPlan.resolve _ _ _ (LogicalPlan.build (s.mapAliases _)).2).1.uncased ∧
    _ = (LogicalPlan.resolve _ _ _ (LogicalPlan.build (s.mapAliases _)).2).2
  rw [← hproblems]
  exact Prod.mk.inj h

/-- A compilation made bare is read off the resolved plan made bare. -/
theorem compile_eq_uncased (c : Compiler) (s : Syntax.Statement) : (c.compile s).uncased =
    ⟨(c.analyse s).1.uncased.statement, (c.analyse s).1.uncased.locals,
      (Physical.statement c.strategy (c.analyse s).1.uncased.statement).toOption, (c.analyse s).2.problems⟩ := by
  have hphysical : (c.compile s).uncased.physical =
      (Physical.statement c.strategy (c.analyse s).1.uncased.statement).toOption := by
    rw [ResolvedPlan.uncased, Physical.statement_mapDecls]
    cases h : Physical.statement c.strategy (c.analyse s).1.statement <;>
      simp [Compilation.uncased, compile, ResolvedPlan.lower, h, bind, Except.bind, pure, Except.pure, Except.map,
        Except.toOption]
  exact congrArg (Compilation.mk _ _ · _) hphysical

/-- Statements that differ only in the case rules of their aliases have the same problems, and the same plans and locals
but for the case rules of declarations and locals. -/
theorem compile_uncased (c : Compiler) {s t : Syntax.Statement}
    (h : s.mapAliases Syntax.Alias.uncased = t.mapAliases Syntax.Alias.uncased) :
    (c.compile s).uncased = (c.compile t).uncased := by
  obtain ⟨hs, hslog⟩ := c.analyse_uncased s
  obtain ⟨ht, htlog⟩ := c.analyse_uncased t
  rw [compile_eq_uncased, compile_eq_uncased, hs, hslog, h, ht, htlog]

end Compiler

/-- `FROM orders AS o AT n SET o.lines = (SELECT x AS y FROM o.items AS l AT L LET l AS x GROUP BY x AS k GROUP AS g)
REMOVE O`, with aliases of one case rule. -/
def Sample.batchOfAliases (rule : CaseRule) : Syntax.Statement :=
  .dml ⟨[.set [⟨.ofFields (.bare "o" ⟨1, 28⟩) ["lines"], .select
      (((Syntax.Select.ofProjection (.list [.expr (.bare "x" ⟨1, 47⟩) (some ⟨⟨"y", rule⟩, ⟨1, 52⟩⟩)])).addFrom
        (.scan ⟨.fields (.bare "o" ⟨1, 59⟩) ["items"], some ⟨⟨"l", rule⟩, ⟨1, 70⟩⟩, some ⟨⟨"L", rule⟩, ⟨1, 75⟩⟩, none,
          {}⟩)).addLet (.bare "l" ⟨1, 81⟩) ⟨⟨"x", rule⟩, ⟨1, 86⟩⟩ |>.addGroupBy
        [(.bare "x" ⟨1, 97⟩, some ⟨⟨"k", rule⟩, ⟨1, 102⟩⟩)] (some ⟨⟨"g", rule⟩, ⟨1, 113⟩⟩))⟩],
      .remove (.ofVar (.bare "O" ⟨2, 8⟩))],
    some ⟨.bare "orders" ⟨1, 6⟩, some ⟨⟨"o", rule⟩, ⟨1, 16⟩⟩, some ⟨⟨"n", rule⟩, ⟨1, 21⟩⟩, none, none⟩, ⟨1, 1⟩⟩

/-- With quoted aliases the batch updates and removes the rows all the same. In both an alias is repeated, and the name
of the row is not bound in the inner query. -/
theorem Compiler.compile_uncased_batchOfAliases :
    let c : Compiler := { catalog := (Catalog.mk Sample.shopTables).lookup }
    let quoted := c.compile (Sample.batchOfAliases .sensitive)
    let bare := c.compile (Sample.batchOfAliases .insensitive)
    quoted.uncased = bare.uncased ∧ quoted.locals ≠ bare.locals ∧
      bare.problems = [⟨⟨1, 75⟩, .variablePreviouslyDefined "L"⟩, ⟨⟨1, 59⟩, .undefined (.bare "o")⟩] ∧
      bare.physical.map (·.commands.map (·.action)) = some ["update", "delete"] := by
  intro c quoted bare
  exact ⟨c.compile_uncased rfl, by decide, by decide, by decide⟩

end NestedQuery
