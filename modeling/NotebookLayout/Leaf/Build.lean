import NotebookLayout.Document.Metrics
import NotebookLayout.Leaf.Chain
import NotebookLayout.Leaf.Columns

/-!
# Making leaves of tokens

Every token that is not trivia makes a leaf; the trivia in front of it makes the leaf's gap. What is
left after the last leaf is a gap of its own. `build` has the exact numbers; `buildWith` makes the
same leaves with counters.
-/

namespace NotebookLayout

/-- What leaves are measured with. -/
structure Layout where
  /-- The line geometry of the document. -/
  metrics : LineMetrics
  /-- The columns that a tab counts as. -/
  tabSize : Nat
  /-- Leaves that overlap one of these spans are read-only. -/
  readOnly : List Span := []

namespace Layout

/-- The token starts and ends on different lines. -/
def isMultiline (layout : Layout) (token : Token) : Bool :=
  layout.metrics.lineOf token.span.start ≠ layout.metrics.lineOf token.span.stop

/-- Where the token's text on the last of its lines starts. -/
def lastLineStart (layout : Layout) (token : Token) : Nat :=
  if layout.isMultiline token then
    layout.metrics.startOf (layout.metrics.lineOf token.span.stop)
  else token.span.start

/-- The text of a token on the last of its lines; a start inside a character or past the token's
text gives none. -/
def lastPart (layout : Layout) (token : Token) : Text :=
  (Text.dropBytes? (layout.lastLineStart token - token.span.start) token.text).getD []

/-- The columns of a token on the last of its lines. -/
def width (layout : Layout) (token : Token) : Nat :=
  Text.columns layout.tabSize (layout.lastPart token)

/-- The leaf of a token with a gap in front of it. -/
def leaf (layout : Layout) (token : Token) (gap : Gap) : Leaf where
  kind := token.kind
  span := token.span
  gap := gap
  multiline := layout.isMultiline token
  width := layout.width token
  readOnly := layout.readOnly.any (·.overlaps token.span)

/-- The chain with one more token: trivia goes to the gap, anything else becomes a leaf and starts
an empty gap. -/
def step (layout : Layout) (state : LeafChain × Gap) (token : Token) : LeafChain × Gap :=
  if token.kind.isTrivia then (state.1, state.2.append layout.tabSize token.text)
  else (state.1.push (layout.leaf token state.2), .empty token.span.stop)

/-- The gap that the first leaf may get. It starts where the tokens start, which need not be at
zero. -/
def firstGap (tokens : List Token) : Gap := .empty ((tokens.head?.map (·.span.start)).getD 0)

/-- The leaves of some tokens, and the gap after the last leaf. -/
def build (layout : Layout) (tokens : List Token) : LeafChain × Gap :=
  tokens.foldl layout.step (.empty, firstGap tokens)

/-! ## Making leaves with counters -/

/-- The leaf of a token with a gap in front of it. -/
def leafWith (arith : Arithmetic) (layout : Layout) (token : Token) (gap : Gap) :
    Except ArithmeticError Leaf := do
  let width ← Text.columnsWith arith layout.tabSize (layout.lastPart token)
  return { layout.leaf token gap with width }

/-- The chain with one more token. -/
def stepWith (arith : Arithmetic) (layout : Layout) (state : LeafChain × Gap) (token : Token) :
    Except ArithmeticError (LeafChain × Gap) :=
  if token.kind.isTrivia then do
    let gap ← state.2.appendWith arith layout.tabSize token.text
    return (state.1, gap)
  else do
    let leaf ← layout.leafWith arith token state.2
    return (state.1.push leaf, .empty token.span.stop)

/-- The leaves of some tokens, and the gap after the last leaf. -/
def buildWith (arith : Arithmetic) (layout : Layout) (tokens : List Token) :
    Except ArithmeticError (LeafChain × Gap) :=
  tokens.foldlM (layout.stepWith arith) (.empty, firstGap tokens)

end Layout

end NotebookLayout
