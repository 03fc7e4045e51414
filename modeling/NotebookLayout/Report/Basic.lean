import NotebookLayout.Leaf.Build
import NotebookLayout.Report.Row
import NotebookLayout.Settings
import NotebookLayout.Token.Lexeme

/-!
# Reports

The report on a text: its cells and, if asked for, its leaves. A report is made with counters, and
there is none if the program stops; `leafRows` has the exact numbers.
-/

namespace NotebookLayout

/-- What is told about a text. -/
structure Report where
  /-- One row per cell. -/
  cells : List CellRow
  /-- One row per leaf, or none at all. -/
  leaves : List LeafRow

/-- Why there is no report. -/
inductive ReportError where
  /-- The cell markers give no split. -/
  | partition (cause : PartitionError)
  /-- The document does not have the span of some leaf. -/
  | leafSpan
  /-- A column does not fit in its counter. -/
  | arithmetic (cause : ArithmeticError)
  deriving DecidableEq

/-- The text of the error. -/
def ReportError.message : ReportError → String
  | .partition cause => cause.message
  | .leafSpan => "a leaf lies outside the document"
  | .arithmetic cause => cause.message

namespace Report

/-- The leaf rows of a document. -/
def leafRows (doc : Document) (tabSize : Nat) : Except ReportError (List LeafRow) :=
  let layout : Layout := { metrics := doc.metrics, tabSize }
  match LeafRow.ofChain? doc (layout.build (Token.ofText doc.text)).1 with
  | some rows => .ok rows
  | none => .error .leafSpan

/-- The row of a leaf of a chain, with its indent summed up in counters. -/
def leafRowWith (arith : Arithmetic) (doc : Document) (chain : LeafChain) (id : LeafId)
    (leaf : Leaf) : Except ReportError LeafRow := do
  let d ← (chain.indentWith arith id).mapError .arithmetic
  match LeafRow.behind? doc (d.getD 0) leaf with
  | some row => return row
  | none => throw .leafSpan

/-- The rows of all leaves of a chain. -/
def chainRowsWith (arith : Arithmetic) (doc : Document) (chain : LeafChain) :
    Except ReportError (List LeafRow) :=
  chain.entries.mapM fun (id, node) => leafRowWith arith doc chain id node.leaf

/-- The leaf rows of a document, made with counters. -/
def leafRowsWith (arith : Arithmetic) (doc : Document) (tabSize : Nat) :
    Except ReportError (List LeafRow) := do
  let layout : Layout := { metrics := doc.metrics, tabSize }
  let (chain, _) ← (layout.buildWith arith (Token.ofText doc.text)).mapError .arithmetic
  chainRowsWith arith doc chain

/-- The report on a text. -/
def ofText (arith : Arithmetic) (t : Text) (settings : Settings) (withLeaves : Bool) :
    Except ReportError Report := do
  let doc := Document.ofText t
  let cells ← (doc.splitCells settings.cellMarker).mapError .partition
  let leaves ← if withLeaves then leafRowsWith arith doc settings.tabSize else .ok []
  return { cells := cells.map .ofInterval, leaves }

/-- The report as lines of text: the cells and, if asked for, an empty line and the leaves. -/
def render (report : Report) (withLeaves : Bool) : Text :=
  renderRows CellRow.render report.cells ++
    if withLeaves then '\n' :: renderRows LeafRow.render report.leaves else []

end Report

end NotebookLayout
