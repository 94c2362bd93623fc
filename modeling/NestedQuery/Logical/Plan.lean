/-
Logical plans: a statement whose references are still to be bound, with the locals it declares and the
frames it opens.
-/
import NestedQuery.Plan.Basic
import NestedQuery.Scope.Tree

namespace NestedQuery

structure LogicalPlan where
  statement : Plan.Statement Reference
  locals : List Local
  scopes : Scope.Tree

end NestedQuery
