import NotebookLayout.Leaf.Gap
import NotebookLayout.Token.Basic

/-!
# Leaves

A leaf is a token with the gap in front of it, measured once when it is made.
-/

namespace NotebookLayout

/-- The smallest unit of layout. -/
structure Leaf where
  /-- What its token is. -/
  kind : TokenKind
  /-- The bytes of its text. -/
  span : Span
  /-- The gap in front of it. -/
  gap : Gap
  /-- Its text starts and ends on different lines. -/
  multiline : Bool
  /-- The columns of its text on the last of its lines. -/
  width : Nat
  /-- It lies at least partly in a read-only span. -/
  readOnly : Bool
  deriving DecidableEq

/-- The leaf is a lone closing brace. -/
def Leaf.endsBlock (leaf : Leaf) : Bool := leaf.kind = .closeBrace && leaf.span.size == 1

end NotebookLayout
