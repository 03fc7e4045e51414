import NotebookLayout.Cell.Split
import NotebookLayout.Leaf.Position
import NotebookLayout.Text.Quoted

/-!
# Report rows

One row per cell and one per leaf, and their text: a row is one line.
-/

namespace NotebookLayout

/-! ## Cells -/

/-- What a report says about a cell. -/
structure CellRow where
  /-- Position among the cells. -/
  ordinal : Nat
  /-- The kind of the cell. -/
  kind : CellKind
  /-- The first line. -/
  start : Nat
  /-- The line after the last one. -/
  stop : Nat
  /-- The cell begins with a marker line. -/
  marker : Bool
  /-- The title on the marker line. -/
  title : Option Text
  deriving DecidableEq

namespace CellRow

/-- The row of an interval. -/
def ofInterval (iv : Interval Attributes) : CellRow where
  ordinal := iv.ordinal
  kind := iv.kind
  start := iv.lines.start
  stop := iv.lines.stop
  marker := iv.marked
  title := iv.data.title?

/-- The row as text. -/
def render (row : CellRow) : Text :=
  '#' :: Text.decimal row.ordinal ++ ' ' :: row.kind.name ++
    ' ' :: Text.decimal row.start ++ '.' :: '.' :: Text.decimal row.stop ++
    (if row.marker then " marker".toList else []) ++
    (match row.title with
      | some title => ' ' :: Text.quote title
      | none => [])

end CellRow

/-! ## Leaves -/

/-- What a report says about a leaf. -/
structure LeafRow where
  /-- The line that the leaf starts on. -/
  line : Nat
  /-- The leaf's text, shortened. -/
  text : Text
  /-- The leaf's columns on the last of its lines. -/
  width : Nat
  /-- Where the leaf begins: columns made up by tabs. -/
  indentSpaces : Nat
  /-- Where the leaf begins: all other columns. -/
  spaces : Nat
  /-- The leaf is read-only. -/
  readOnly : Bool
  deriving DecidableEq

namespace LeafRow

/-- The bytes of a leaf's text that a row shows. -/
def previewSize : Nat := 24

/-- The row of a leaf that begins behind `d`, if the document has the leaf's span. -/
def behind? (doc : Document) (d : Indent) (leaf : Leaf) : Option LeafRow := do
  let text ← doc.preview? leaf.span previewSize
  return {
    line := doc.metrics.lineOf leaf.span.start
    text
    width := leaf.width
    indentSpaces := d.indentSpaces
    spaces := d.spaces
    readOnly := leaf.readOnly }

/-- The row of a leaf of a chain. -/
def ofLeaf? (doc : Document) (chain : LeafChain) (id : LeafId) (leaf : Leaf) : Option LeafRow :=
  behind? doc ((chain.indent? id).getD 0) leaf

/-- The rows of all leaves, if the document has their spans. -/
def ofChain? (doc : Document) (chain : LeafChain) : Option (List LeafRow) :=
  chain.entries.mapM fun (id, node) => ofLeaf? doc chain id node.leaf

/-- The row as text. -/
def render (row : LeafRow) : Text :=
  'L' :: Text.decimal row.line ++ ' ' :: Text.decimal row.indentSpaces ++
    '+' :: Text.decimal row.spaces ++ ' ' :: 'w' :: Text.decimal row.width ++
    ' ' :: Text.quote row.text ++ (if row.readOnly then " ro".toList else [])

end LeafRow

/-! ## Lists of rows -/

/-- One line per row. -/
def renderRows {ρ : Type} (render : ρ → Text) (rows : List ρ) : Text :=
  rows.flatMap fun row => render row ++ ['\n']

end NotebookLayout
