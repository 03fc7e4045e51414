import NotebookLayout.Bisect
import NotebookLayout.Document.Line
import NotebookLayout.Document.Metrics

/-!
# Line index

The start offsets of a text's lines, for converting between offsets and line numbers. An empty text
has no lines, and a line feed at the end opens one more line, which is empty.
-/

namespace NotebookLayout

/-- Where the lines of a text start. -/
structure LineIndex where
  /-- The start of every line, in order. -/
  starts : Array Nat
  /-- The byte size of the text. -/
  size : Nat

namespace LineIndex

/-- The start of the empty line that a final line feed opens. -/
def openLine (t : Text) : List Nat :=
  if t.getLast? = some '\n' then [Text.byteSize t] else []

/-- The index of a text. -/
def ofText (t : Text) : LineIndex where
  starts := ((Line.ofText t).map (·.span.start) ++ openLine t).toArray
  size := Text.byteSize t

/-- The number of lines. -/
def lineCount (index : LineIndex) : Nat := index.starts.size

/-- Line `line` starts at `offset` or before it. -/
def startsBy (index : LineIndex) (offset line : Nat) : Bool :=
  index.starts[line]?.any (· ≤ offset)

/-- The line that holds `offset`: the last one that starts no later. Offsets past the end are on the
last line. -/
def lineOf (index : LineIndex) (offset : Nat) : Nat :=
  -- The number of lines that start no later; there is none in a text without lines.
  bisect (index.startsBy offset) index.starts.size - 1

/-- Where a line starts; lines past the last one start at the end of the text. -/
def startOf (index : LineIndex) (line : Nat) : Nat := index.starts[line]?.getD index.size

end LineIndex

end NotebookLayout
