/-!
# Line geometry

All that splitting a document into cells and measuring its leaves need to know about its lines:
how many there are, which one an offset is on, and where each one starts.
-/

namespace NotebookLayout

/-- How lines and byte offsets correspond. -/
structure LineMetrics where
  /-- The number of lines. -/
  lineCount : Nat
  /-- The line an offset is on, counted from zero. -/
  lineOf : Nat → Nat
  /-- The offset at which a line starts. -/
  startOf : Nat → Nat

namespace LineMetrics

/-- The line after the last one; a document without lines counts as one empty line. -/
def endLine (m : LineMetrics) : Nat := max m.lineCount 1

/-- A document of `count` lines that are all `width` bytes long, which is at least one. Offsets past
the end are on the last line, and lines past the end start there. -/
def grid (count width : Nat) (_ : 0 < width) : LineMetrics where
  lineCount := count
  lineOf offset := min (offset / width) (count - 1)
  startOf line := min line count * width

end LineMetrics

end NotebookLayout
