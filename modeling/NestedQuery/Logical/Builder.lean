/-
The state in which a statement is planned: the frames and locals recorded so far, and the problems
reported so far. Planning opens frames, declares locals and makes references; it never fails.
-/
import NestedQuery.Problem
import NestedQuery.Scope.Recorder
import NestedQuery.Syntax.Basic

namespace NestedQuery.Logical

structure BuildState where
  scopes : Scope.Recorder
  problems : List Problem

/-- Planning has begun: only the root frame is open and nothing is reported. -/
def BuildState.start : BuildState := ⟨.start, []⟩

abbrev Build := StateM BuildState

/-! ## Frames -/

def currentScope : Build Nat := return (← get).scopes.current

/-- Opens a frame and gives its id. -/
def openFrame (kind : Scope.FrameKind) : Build Nat :=
  modifyGet fun s => (s.scopes.nextFrame, { s with scopes := s.scopes.openFrame kind })

/-- Runs `body` in a new frame and closes every frame that it leaves open. -/
def inFrame {α : Type} (kind : Scope.FrameKind) (body : Build α) : Build α := do
  let depth := (← get).scopes.depth
  let _ ← openFrame kind
  let result ← body
  modify fun s => { s with scopes := s.scopes.closeTo depth }
  return result

/-! ## References and declarations -/

/-- The reference that a variable makes from the current frame. -/
def reference (v : Syntax.Var) (role : Role) : Build Reference :=
  return ⟨v.name, v.qualifier, role, ← currentScope, v.location⟩

def report (p : Problem) : Build Unit := modify fun s => { s with problems := s.problems ++ [p] }

/-- Declares a local in the current frame. A name that the frame already has, in any case, is reported
and declared all the same. -/
def declare (name : Identifier) (location : Location) : Build Declaration := do
  let scopes := (← get).scopes
  if scopes.currentLocals.any (·.name.sameName name) then
    report ⟨location, .previouslyDefined name⟩
  modify fun s => { s with scopes := s.scopes.declare name }
  return ⟨name, scopes.nextLocal, location⟩

def declareAlias (a : Syntax.Alias) : Build Declaration := declare a.name a.location

def declareOption : Option Syntax.Alias → Build (Option Declaration)
  | none => pure none
  | some a => return some (← declareAlias a)

/-- Declares the alias, or without one the name given for it. -/
def declareOr (a : Option Syntax.Alias) (name : Identifier) (location : Location) : Build Declaration :=
  match a with
  | some a => declareAlias a
  | none => declare name location

end NestedQuery.Logical
