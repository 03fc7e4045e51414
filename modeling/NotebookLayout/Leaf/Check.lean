import NotebookLayout.Leaf.Chain

/-!
# Checking a chain

Links lead to leaves that link back, a leaf ends before the next one starts, and a gap ends before
its leaf starts.
-/

namespace NotebookLayout

/-- What is wrong with a chain. -/
inductive ChainFault where
  /-- A leaf is linked to an empty slot. -/
  | deadLink (id next : LeafId)
  /-- The leaf after a leaf does not link back to it. -/
  | oneWayLink (id next : LeafId)
  /-- A leaf ends after the next one starts. -/
  | disorder (span next : Span)
  /-- A leaf starts before its gap ends. -/
  | gapOverlap (id : LeafId)
  deriving DecidableEq

/-- The text of the fault. -/
def ChainFault.message : ChainFault → String
  | .deadLink id next => s!"LeafId({id}) links to dead leaf LeafId({next})"
  | .oneWayLink id next => s!"LeafId({next}) does not link back to LeafId({id})"
  | .disorder a b =>
    s!"leaf spans out of order: Span \x7b start: {a.start}, end: {a.stop} \x7d then " ++
      s!"Span \x7b start: {b.start}, end: {b.stop} \x7d"
  | .gapOverlap id => s!"whitespace of LeafId({id}) overlaps its leaf"

namespace LeafChain

/-- What is wrong with the link from a leaf to the next one. -/
def linkFault? (chain : LeafChain) (id : LeafId) (node : ChainNode) : Option ChainFault :=
  match node.next with
  | none => none
  | some next =>
    match chain.get? next with
    | none => some (.deadLink id next)
    | some after =>
      -- Spans are compared only along links that go both ways.
      if after.previous ≠ some id then some (.oneWayLink id next)
      else if node.leaf.span.stop > after.leaf.span.start then
        some (.disorder node.leaf.span after.leaf.span)
      else none

/-- What is wrong with a leaf's gap. -/
def gapFault? (id : LeafId) (node : ChainNode) : Option ChainFault :=
  if node.leaf.gap.span.stop > node.leaf.span.start then some (.gapOverlap id) else none

/-- The first fault, by leaves. -/
def fault? (chain : LeafChain) : Option ChainFault :=
  chain.entries.findSome? fun (id, node) => (chain.linkFault? id node).or (gapFault? id node)

end LeafChain

end NotebookLayout
