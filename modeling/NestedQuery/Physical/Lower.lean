/-
Making a resolved plan ready for execution: every operator gets a strategy, and the mutations of a
statement become commands that name their collection by its catalog id.
-/
import NestedQuery.Plan.Strategies
import NestedQuery.Resolved.Plan

namespace NestedQuery

/-- A mutation whose target is no entity of the catalog cannot be made a command. -/
inductive LoweringError where
  | unresolvedTarget (name : String) (location : Location)
  deriving DecidableEq

def LoweringError.message : LoweringError → String
  | .unresolvedTarget name location => location.text ++ ": DML target '" ++ name ++ "' has no catalog id"

namespace Physical

/-- The command of a mutation. -/
def command (s : Plan.Strategy) (m : Plan.Mutation Binding) : Except LoweringError (Plan.Command Binding) :=
  match m.target.globalId? with
  | some id => .ok ⟨m.action.name, id, m.rows.fill s⟩
  | none => .error (.unresolvedTarget m.target.name.text m.target.location)

/-- The commands of mutations, up to the first that has none. -/
def commands (s : Plan.Strategy) :
    List (Plan.Mutation Binding) → Except LoweringError (List (Plan.Command Binding))
  | [] => .ok []
  | m :: rest => do
    let c ← command s m
    let cs ← commands s rest
    return c :: cs

def statement (s : Plan.Strategy) : Plan.Statement Binding → Except LoweringError (Plan.Statement Binding)
  | .dml mutations => return .dmlCommands (← commands s mutations)
  | other => .ok (other.fill s)

end Physical

/-- The physical plan of a resolved one; `s` is the strategy of operators that have none. -/
def ResolvedPlan.lower (p : ResolvedPlan) (s : Plan.Strategy) : Except LoweringError ResolvedPlan :=
  return ⟨← Physical.statement s p.statement, p.locals⟩

end NestedQuery
