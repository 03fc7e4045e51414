import NotebookLayout.Text.Basic

/-!
# Ranges of code points

Properties of characters are given as lists of inclusive code point ranges.
-/

namespace NotebookLayout.Text

/-- The code points from `lo` to `hi`, both included. -/
structure CodeRange where
  /-- First code point of the range. -/
  lo : Nat
  /-- Last code point of the range. -/
  hi : Nat

/-- The code point `n` lies in one of the ranges. -/
def inRanges (ranges : List CodeRange) (n : Nat) : Bool :=
  ranges.any fun r => r.lo ≤ n && n ≤ r.hi

end NotebookLayout.Text
