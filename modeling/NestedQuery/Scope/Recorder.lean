/-
Recording the frames of a statement while it is read: frames open and close like brackets, and each
declaration takes the next number. The root frame never closes.
-/
import NestedQuery.Scope.Tree

namespace NestedQuery.Scope

/-- The frames opened so far, those still open (innermost first), and the locals declared so far. -/
structure Recorder where
  tree : Tree
  stack : List Nat
  locals : List Local
  deriving DecidableEq

namespace Recorder

/-- Only the root frame is open. -/
def start : Recorder := ⟨Tree.addFrame {} .statement none, [0], []⟩

/-- The innermost open frame. -/
def current (r : Recorder) : Nat := r.stack.headD 0

/-- The number of open frames. -/
def depth (r : Recorder) : Nat := r.stack.length

/-- The frame that opens next. -/
def nextFrame (r : Recorder) : Nat := r.tree.frames.length

/-- Opens a frame inside the current one. -/
def openFrame (r : Recorder) (kind : FrameKind) : Recorder :=
  { r with tree := r.tree.addFrame kind (some r.current), stack := r.nextFrame :: r.stack }

/-- The frame that closes next; the root frame does not. -/
def closing? (r : Recorder) : Option Nat := if 1 < r.stack.length then r.stack.head? else none

/-- Closes the innermost frame unless it is the root frame. -/
def closeFrame (r : Recorder) : Recorder :=
  { r with stack := if 1 < r.stack.length then r.stack.drop 1 else r.stack }

/-- Closes frames until `depth` are open. -/
def closeTo (r : Recorder) (depth : Nat) : Recorder :=
  { r with stack := r.stack.drop (r.stack.length - max depth 1) }

/-- The number that the next declaration takes. -/
def nextLocal (r : Recorder) : Nat := r.locals.length

/-- Declares a local in the current frame. -/
def declare (r : Recorder) (name : Identifier) : Recorder :=
  { r with
    tree := r.tree.addLocal r.current r.nextLocal
    locals := r.locals ++ [⟨name, r.nextLocal⟩] }

/-- The locals declared in the current frame, in order. -/
def currentLocals (r : Recorder) : List Local :=
  match r.tree.frame? r.current with
  | some f => f.locals.filterMap (r.locals[·]?)
  | none => []

end Recorder

end NestedQuery.Scope
