/-!
# Byte spans

Half-open ranges of byte offsets. Leaves, gaps and lines keep spans instead of copied text; slicing
a document with one gives the text back.
-/

namespace NotebookLayout

/-- The byte range from `start` up to, but not including, `stop`. -/
structure Span where
  /-- Offset of the first byte. -/
  start : Nat
  /-- Offset after the last byte. -/
  stop : Nat
  deriving DecidableEq

namespace Span

/-- The empty span at an offset. -/
def point (offset : Nat) : Span := ⟨offset, offset⟩

/-- The number of bytes; a span that ends before it starts has none. -/
def size (s : Span) : Nat := s.stop - s.start

/-- The span holds no byte. -/
def isEmpty (s : Span) : Bool := s.size == 0

/-- The offset lies inside the span and on neither of its edges. -/
def strictlyContains (s : Span) (offset : Nat) : Bool := s.start < offset && offset < s.stop

/-- Each span starts before the other ends. -/
def overlaps (s t : Span) : Bool := s.start < t.stop && t.start < s.stop

/-- A span that ends before it starts is empty too. -/
theorem isEmpty_iff {s : Span} : s.isEmpty = true ↔ s.stop ≤ s.start := by
  simp only [isEmpty, size, beq_iff_eq]
  omega

end Span

end NotebookLayout
