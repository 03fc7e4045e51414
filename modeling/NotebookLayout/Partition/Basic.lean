import NotebookLayout.Text.Basic

/-!
# Cells as line ranges

The types of the split: markers at byte offsets, boundaries at lines, and the intervals between
boundaries. All three carry a payload of any type, which the split hands on untouched.
-/

namespace NotebookLayout

/-- What a cell holds. -/
inductive CellKind where
  /-- Plain text, as before the first marker. -/
  | raw
  | code
  | markdown
  deriving DecidableEq

/-- The kind in lower case. -/
def CellKind.name : CellKind → Text
  | .raw => "raw".toList
  | .code => "code".toList
  | .markdown => "markdown".toList

/-- Kinds are told apart by their names. -/
theorem CellKind.name_injective {k l : CellKind} (h : k.name = l.name) : k = l := by
  revert h
  cases k <;> cases l <;> decide

/-- A place in the text at which a new cell begins. -/
structure Marker (α : Type) where
  /-- Position among the markers. -/
  ordinal : Nat
  /-- The kind of the cell that begins here. -/
  kind : CellKind
  /-- Offset of the marker's text in bytes. -/
  offset : Nat
  /-- Size of the marker's text in bytes. -/
  length : Nat
  /-- The payload. -/
  data : α

/-- A line at which one cell ends and the next begins. -/
structure Boundary (α : Type) where
  /-- The first line of the next cell. -/
  line : Nat
  /-- The kind of the next cell. -/
  kind : CellKind
  /-- The next cell begins with a marker. -/
  marked : Bool
  /-- The payload. -/
  data : α

/-- The lines from `start` up to, but not including, `stop`. -/
structure LineRange where
  /-- The first line. -/
  start : Nat
  /-- The line after the last one. -/
  stop : Nat
  deriving DecidableEq

namespace LineRange

/-- The number of lines; a range that ends before it starts has none. -/
def count (r : LineRange) : Nat := r.stop - r.start

/-- The range holds no line. -/
def isEmpty (r : LineRange) : Bool := r.stop ≤ r.start

/-- The line is in the range. -/
def contains (r : LineRange) (line : Nat) : Bool := r.start ≤ line && line < r.stop

/-- A range holds its first line and not the line after its last one. -/
theorem contains_iff {r : LineRange} {line : Nat} :
    r.contains line = true ↔ r.start ≤ line ∧ line < r.stop := by
  simp [contains]

end LineRange

/-- A cell: a range of lines with its place in the split. -/
structure Interval (α : Type) where
  /-- Position among the intervals. -/
  ordinal : Nat
  /-- The kind of the cell. -/
  kind : CellKind
  /-- The lines of the cell. -/
  lines : LineRange
  /-- The cell begins with a marker. -/
  marked : Bool
  /-- The payload. -/
  data : α

end NotebookLayout
