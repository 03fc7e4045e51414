import NotebookLayout.Document.LineIndex

/-!
# Documents

A text with the index of its lines, computed once.
-/

namespace NotebookLayout

/-- A text and its line index. -/
structure Document where
  /-- The text. -/
  text : Text
  /-- Where its lines start. -/
  index : LineIndex := .ofText text
  /-- The index is that of the text. -/
  index_eq : index = .ofText text := by rfl

namespace Document

/-- The document with a given text. -/
def ofText (t : Text) : Document where
  text := t

/-- The size in bytes. -/
def size (doc : Document) : Nat := Text.byteSize doc.text

/-- The lines, in order; a final line feed opens no further line here. -/
def lines (doc : Document) : List Line := Line.ofText doc.text

/-- The line geometry, in which a final line feed does open a further line. -/
def metrics (doc : Document) : LineMetrics where
  lineCount := doc.index.lineCount
  lineOf := doc.index.lineOf
  startOf := doc.index.startOf

/-- The text of a span. Only an empty span may have bounds outside the text or inside a
character. -/
def slice? (doc : Document) (span : Span) : Option Text :=
  Text.slice? span.start span.stop doc.text

/-- What stands for the rest of a shortened text. -/
def ellipsis : Text := ['.', '.', '.']

/-- A text of more than `max` bytes cut to the characters that fit, with an ellipsis. -/
def shorten (max : Nat) (t : Text) : Text :=
  if Text.byteSize t > max then Text.takeWithin max t ++ ellipsis else t

/-- The text of a span, shortened to `max` bytes. -/
def preview? (doc : Document) (span : Span) (max : Nat) : Option Text :=
  (doc.slice? span).map (shorten max)

/-- A document is determined by its text. -/
theorem eq_ofText (doc : Document) : doc = ofText doc.text := by
  obtain ⟨text, index, rfl⟩ := doc
  rfl

end Document

end NotebookLayout
