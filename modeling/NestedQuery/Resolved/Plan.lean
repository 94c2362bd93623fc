/-
Resolved plans: a statement whose references are bound, with the locals it declares. A physical plan has
the same shape, with a strategy for every operator.
-/
import NestedQuery.Plan.Vars

namespace NestedQuery

structure ResolvedPlan where
  statement : Plan.Statement Binding
  locals : List Local

namespace ResolvedPlan

/-- The bindings of a plan in the order of reading. -/
def bindings (p : ResolvedPlan) : List Binding := p.statement.vars

/-- The bindings whose name has exactly the given text. -/
def bindingsNamed (p : ResolvedPlan) (text : String) : List Binding := p.bindings.filter (·.name.text == text)

end ResolvedPlan

end NestedQuery
