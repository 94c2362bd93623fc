/-
What one may expect of a compilation: what a binding stands for, that there is one given problem, and
that a plan is ready for execution.
-/
import NestedQuery.Problem
import NestedQuery.Resolved.Plan

namespace NestedQuery

namespace Binding

def isLocal (b : Binding) (index : Nat) : Bool := b.localIndex? == some index

def isGlobal (b : Binding) (id : String) : Bool := b.globalId? == some id

/-- The binding is left to the time of execution, whatever name is looked for then. -/
def isDynamic (b : Binding) (globalsFirst : Bool) (candidates : List Nat) : Bool :=
  match b.meaning with
  | some (.dynamic _ first locals) => first == globalsFirst && locals == candidates
  | _ => false

def isUnresolved (b : Binding) : Bool := !b.isResolved

end Binding

/-- There is exactly one problem, with the given fault at the given place. -/
def Problem.isOnly (problems : List Problem) (location : Location) (fault : Fault) : Bool :=
  problems == [⟨location, fault⟩]

/-- Every operator of a plan has a strategy. -/
def ResolvedPlan.isPhysical (p : ResolvedPlan) : Bool := p.statement.allHaveStrategy

end NestedQuery
