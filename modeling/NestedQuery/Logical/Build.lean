/-
The logical plan of a statement.
-/
import NestedQuery.Logical.Mutation
import NestedQuery.Logical.Plan

namespace NestedQuery

namespace Logical

def planStatement : Syntax.Statement → Build (Plan.Statement Reference)
  | .query expr => return .query (← planExpr .expression expr)
  | .dml mutation => return .dml (← planMutation mutation)
  | .exec procedure args => return .exec procedure (← planExprs args)

end Logical

/-- The logical plan of a statement, and the problems found in planning it. -/
def LogicalPlan.build (s : Syntax.Statement) : LogicalPlan × List Problem :=
  let (statement, state) := (Logical.planStatement s).run .start
  (⟨statement, state.scopes.locals, state.scopes.tree⟩, state.problems)

end NestedQuery
