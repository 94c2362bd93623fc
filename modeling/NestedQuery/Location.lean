/-
Places in the text of a statement.
-/
namespace NestedQuery

/-- A line and an offset in it, both counted from one. Zero stands for an unknown place. -/
structure Location where
  line : UInt32 := 0
  offset : UInt32 := 0
  deriving DecidableEq, Inhabited

namespace Location

/-- The place with the given row and column, both counted from zero. -/
def ofZeroBased (row column : UInt32) : Location := ⟨row + 1, column + 1⟩

/-- The text `line:offset`. -/
def text (l : Location) : String := toString l.line ++ ":" ++ toString l.offset

/-- Reading order: by line, then by offset. -/
def order (a b : Location) : Ordering := (compare a.line b.line).then (compare a.offset b.offset)

end Location

end NestedQuery
