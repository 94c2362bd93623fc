/-
The frames that a statement opens, as a tree. A frame is found by its position; its parent is the frame
that was current when it was opened. Static visibility ends at the nearest query boundary.
-/
import NestedQuery.Reference

namespace NestedQuery.Scope

/-- What opens a frame. -/
inductive FrameKind where
  | statement
  | query
  | fromItem
  | letBinding
  | groupBy
  | dmlSource
  deriving DecidableEq, Inhabited

/-- A frame and the locals declared directly in it, in the order of their declarations. -/
structure Frame where
  id : Nat
  parent : Option Nat
  kind : FrameKind
  locals : List Nat
  deriving DecidableEq

/-- A frame outside of which nothing is visible statically. -/
def Frame.isBoundary (f : Frame) : Bool :=
  match f.kind with
  | .statement | .query => true
  | _ => false

structure Tree where
  frames : List Frame := []
  deriving DecidableEq

namespace Tree

/-- Adds a frame; its id is its position. -/
def addFrame (t : Tree) (kind : FrameKind) (parent : Option Nat) : Tree :=
  ⟨t.frames ++ [⟨t.frames.length, parent, kind, []⟩]⟩

/-- Adds a local at the end of a frame. A frame that is not there stays out. -/
def addLocal (t : Tree) (scope index : Nat) : Tree :=
  ⟨t.frames.modify scope fun f => { f with locals := f.locals ++ [index] }⟩

def frame? (t : Tree) (scope : Nat) : Option Frame := t.frames[scope]?

/-- At most `steps` frames of the chain that starts at a frame and follows the parents. -/
def chain (t : Tree) : Nat → Option Nat → List Frame
  | 0, _ => []
  | _ + 1, none => []
  | steps + 1, some scope =>
    match t.frame? scope with
    | none => []
    | some f => f :: t.chain steps f.parent

/-- A frame and the frames around it, nearest first. A chain that does not run in circles is no longer
than the tree has frames. -/
def ancestors (t : Tree) (scope : Nat) : List Frame := t.chain t.frames.length (some scope)

/-- A list of frames up to and including the first boundary. -/
def upToBoundary : List Frame → List Frame
  | [] => []
  | f :: fs => if f.isBoundary then [f] else f :: upToBoundary fs

/-- The frames whose locals a reference may be bound to. -/
def staticFrames (t : Tree) (scope : Nat) : List Frame := upToBoundary (t.ancestors scope)

/-- Every local visible from a frame, outer queries included: nearest frame first, and within a frame
the last declared first. -/
def visibleLocals (t : Tree) (scope : Nat) : List Nat := (t.ancestors scope).flatMap (·.locals.reverse)

/-- `index` is the number of a local that `name` names. -/
def namesLocal (locals : List Local) (name : Identifier) (index : Nat) : Bool :=
  match locals[index]? with
  | some l => name.names l.name.text
  | none => false

/-- The local that a name is bound to from a frame: the nearest frame with a match, and the first
declared match in it. -/
def findLocal? (t : Tree) (locals : List Local) (name : Identifier) (scope : Nat) : Option Nat :=
  (t.staticFrames scope).findSome? fun f => f.locals.find? (namesLocal locals name)

end Tree

end NestedQuery.Scope
