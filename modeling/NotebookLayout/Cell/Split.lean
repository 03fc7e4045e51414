import NotebookLayout.Cell.MarkerLine
import NotebookLayout.Document.Basic
import NotebookLayout.Partition.Split

/-!
# Splitting a document into cells

The marker lines of a document are found line by line, and the document is split at them. What comes
before the first marker is a raw cell of its own.
-/

namespace NotebookLayout

/-- Named texts that go with a cell. -/
abbrev Attributes := List (Text × Text)

namespace Attributes

/-- The name of a cell's title. -/
def titleKey : Text := "title".toList

/-- The name of what a cell without a marker is. -/
def kindKey : Text := "kind".toList

/-- The title among the attributes. -/
def title? (attributes : Attributes) : Option Text := attributes.lookup titleKey

/-- The attributes of a cell with or without a title. -/
def ofTitle (title : Option Text) : Attributes :=
  match title with
  | some t => [(titleKey, t)]
  | none => []

/-- The attributes of a boundary without a marker. -/
def ofKind (kind : Text) : Attributes := [(kindKey, kind)]

@[simp] theorem title?_ofTitle (title : Option Text) : (ofTitle title).title? = title := by
  cases title <;> simp [ofTitle, title?]

end Attributes

/-- The marker that a marker line gives. -/
def MarkerLine.toMarker (ordinal : Nat) (line : MarkerLine) : Marker Attributes where
  ordinal := ordinal
  kind := line.kind
  offset := line.span.start
  length := line.span.size
  data := .ofTitle line.title

namespace Document

/-- The cell markers of a document, in order; `marker` is the text that a marker line begins
with. -/
def cellMarkers (doc : Document) (marker : Text) : List (Marker Attributes) :=
  (doc.lines.filterMap (MarkerLine.ofLine? marker)).mapIdx MarkerLine.toMarker

/-- What the cell before the first marker is called. -/
def preamble : Attributes := .ofKind "preamble".toList

/-- What the boundary at the end of the document is called. -/
def ending : Attributes := .ofKind "eof".toList

/-- The cells of a document. -/
def splitCells (doc : Document) (marker : Text) :
    Except PartitionError (List (Interval Attributes)) :=
  Interval.ofMarkers doc.metrics (doc.cellMarkers marker) preamble ending

end Document

end NotebookLayout
