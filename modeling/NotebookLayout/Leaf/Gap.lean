import NotebookLayout.Leaf.Indent
import NotebookLayout.Span
import NotebookLayout.Text.Basic

/-!
# Gaps

What lies between two leaves, measured: only the part after the last line feed counts as indent.
`measure` has the exact numbers; `measureWith` is what counters hold, fitted after every character.
-/

namespace NotebookLayout

/-- The run of white space in front of a leaf. -/
structure Gap where
  /-- The bytes of the run. -/
  span : Span
  /-- The columns after the last line feed. -/
  indent : Indent
  /-- The number of line feeds. -/
  lineFeeds : Nat
  deriving DecidableEq

namespace Gap

/-- The gap without a character, at an offset. -/
def empty (offset : Nat) : Gap := ⟨.point offset, 0, 0⟩

/-- What a character makes of the indent: a line feed starts over, a carriage return takes no
column, a tab takes `tabSize` and anything else one. -/
def indentAfter (tabSize : Nat) (d : Indent) : Char → Indent
  | '\n' => 0
  | '\r' => d
  | '\t' => ⟨d.indentSpaces + tabSize, d.spaces⟩
  | _ => ⟨d.indentSpaces, d.spaces + 1⟩

/-- The gap with one more character at its end. -/
def push (tabSize : Nat) (g : Gap) (c : Char) : Gap where
  span := ⟨g.span.start, g.span.stop + c.utf8Size⟩
  indent := indentAfter tabSize g.indent c
  lineFeeds := if c = '\n' then g.lineFeeds + 1 else g.lineFeeds

/-- The gap with a text put at its end. -/
def append (tabSize : Nat) (g : Gap) (t : Text) : Gap := t.foldl (push tabSize) g

/-- The gap that a text at an offset makes. -/
def measure (tabSize offset : Nat) (t : Text) : Gap := append tabSize (empty offset) t

/-- The gap goes over the end of a line. -/
def hasLineFeed (g : Gap) : Bool := 0 < g.lineFeeds

/-- Two texts put at the end one after the other are as good as both at once. -/
theorem append_append (tabSize : Nat) (g : Gap) (s t : Text) :
    append tabSize (append tabSize g s) t = append tabSize g (s ++ t) := by
  simp [append]

/-- A text at the end of a measured gap is as good as measured with it. -/
theorem append_measure (tabSize offset : Nat) (s t : Text) :
    append tabSize (measure tabSize offset s) t = measure tabSize offset (s ++ t) :=
  append_append tabSize (empty offset) s t

/-- A gap that has grown by a text ends behind the text. -/
theorem span_append (tabSize : Nat) (g : Gap) (t : Text) :
    (append tabSize g t).span = ⟨g.span.start, g.span.stop + Text.byteSize t⟩ := by
  induction t generalizing g with
  | nil => simp [append]
  | cons c t ih => exact (ih (push tabSize g c)).trans (by simp [push, Nat.add_assoc])

/-- A gap goes from its offset to the end of its text. -/
theorem span_measure (tabSize offset : Nat) (t : Text) :
    (measure tabSize offset t).span = ⟨offset, offset + Text.byteSize t⟩ :=
  span_append tabSize (empty offset) t

/-! ## Gaps in counters -/

/-- What counters hold after sums with the exact values of a gap. -/
def fit (arith : Arithmetic) (g : Gap) : Except ArithmeticError Gap := do
  let stop ← arith.fit g.span.stop
  let indent ← g.indent.fit arith
  let lineFeeds ← arith.fit g.lineFeeds
  return { span := ⟨g.span.start, stop⟩, indent, lineFeeds }

/-- The gap with one more character at its end. -/
def pushWith (arith : Arithmetic) (tabSize : Nat) (g : Gap) (c : Char) :
    Except ArithmeticError Gap :=
  (push tabSize g c).fit arith

/-- The gap with a text put at its end. -/
def appendWith (arith : Arithmetic) (tabSize : Nat) (g : Gap) (t : Text) :
    Except ArithmeticError Gap :=
  t.foldlM (pushWith arith tabSize) g

/-- The gap that a text at an offset makes. -/
def measureWith (arith : Arithmetic) (tabSize offset : Nat) (t : Text) :
    Except ArithmeticError Gap :=
  appendWith arith tabSize (empty offset) t

/-- All numbers that a gap is measured with fit in counters. -/
structure Fits (g : Gap) : Prop where
  stop_lt : g.span.stop < wordLimit
  indent : g.indent.Fits
  lineFeeds_lt : g.lineFeeds < wordLimit

/-- The gap with the high bits of its numbers lost. -/
def wrap (g : Gap) : Gap :=
  ⟨⟨g.span.start, g.span.stop % wordLimit⟩, g.indent.wrap, g.lineFeeds % wordLimit⟩

@[simp] theorem fit_wrapping (g : Gap) : g.fit .wrapping = .ok g.wrap := rfl

/-- A gap that fits is kept as it is. -/
theorem Fits.fit {g : Gap} (h : g.Fits) (arith : Arithmetic) : g.fit arith = .ok g := by
  rw [Gap.fit, arith.fit_of_lt h.stop_lt, h.indent.fit arith, arith.fit_of_lt h.lineFeeds_lt]
  rfl

end Gap

end NotebookLayout
