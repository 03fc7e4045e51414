import NotebookLayout.Leaf.Chain

/-!
# Where leaves begin

The column at which a leaf begins, found by walking the chain backwards: up to the first gap that
goes over the end of a line, or to the start of the chain, gaps and leaf widths add up. `indent?`
has the exact sums; `indentWith` takes them in counters, leaf by leaf on the way back.

Main statements: `LeafChain.reach_of_get?_eq_some` and `LeafChain.indent?_of_get?_eq_some` are the
walk, one leaf at a time.
-/

namespace NotebookLayout

/-- The leaf in front, unless the gap between the two goes over the end of a line. -/
def ChainNode.previousOnLine (node : ChainNode) : Option LeafId :=
  if node.leaf.gap.hasLineFeed then none else node.previous

/-- The leaf in front on the line is the leaf in front. -/
theorem ChainNode.previous_of_previousOnLine {node : ChainNode} {p : LeafId}
    (h : node.previousOnLine = some p) : node.previous = some p := by
  unfold previousOnLine at h
  split at h
  next => simp at h
  next => exact h

namespace LeafChain

/-- The columns from the start of the line to the end of a leaf; none for a number without a
leaf. -/
def reach (chain : LeafChain) (id : LeafId) : Indent :=
  match _ : chain.get? id with
  | none => 0
  | some node =>
    let before :=
      match _ : node.previousOnLine with
      | some p => chain.reach p
      | none => 0
    before + node.leaf.gap.indent + .ofSpaces node.leaf.width
termination_by id
decreasing_by exact chain.previous_lt ‹_› (ChainNode.previous_of_previousOnLine ‹_›)

/-- The columns from the start of the line to the beginning of a leaf. -/
def indent? (chain : LeafChain) (id : LeafId) : Option Indent :=
  (chain.get? id).map fun node =>
    node.previousOnLine.elim 0 chain.reach + node.leaf.gap.indent

/-- Goes on with the walk back from a leaf, with `d` counted so far: its gap, its width, and then
the leaf in front of it. -/
def walkWith (arith : Arithmetic) (chain : LeafChain) (d : Indent) (id : LeafId) :
    Except ArithmeticError Indent :=
  match _ : chain.get? id with
  | none => return d
  | some node => do
    let d ← (d + node.leaf.gap.indent).fit arith
    let d ← (d + .ofSpaces node.leaf.width).fit arith
    match _ : node.previousOnLine with
    | some p => chain.walkWith arith d p
    | none => return d
termination_by id
decreasing_by exact chain.previous_lt ‹_› (ChainNode.previous_of_previousOnLine ‹_›)

/-- The columns from the start of the line to the beginning of a leaf, summed up in counters. The
walk starts with the leaf's own gap, whose indent is in counters already. -/
def indentWith (arith : Arithmetic) (chain : LeafChain) (id : LeafId) :
    Except ArithmeticError (Option Indent) :=
  match chain.get? id with
  | none => return none
  | some node => do
    let d ← node.leaf.gap.indent.fit arith
    match node.previousOnLine with
    | some p => some <$> chain.walkWith arith d p
    | none => return some d

/-- A leaf reaches as far as the leaf in front of it on the line, its gap and its width together. -/
theorem reach_of_get?_eq_some {chain : LeafChain} {id : LeafId} {node : ChainNode}
    (h : chain.get? id = some node) :
    chain.reach id =
      node.previousOnLine.elim 0 chain.reach + node.leaf.gap.indent +
        .ofSpaces node.leaf.width := by
  rw [reach]
  split <;> simp_all
  split <;> simp_all

/-- A number without a leaf reaches nowhere. -/
theorem reach_of_get?_eq_none {chain : LeafChain} {id : LeafId} (h : chain.get? id = none) :
    chain.reach id = 0 := by
  rw [reach]
  split <;> simp_all

/-- A leaf begins behind the leaf in front of it on the line and its own gap. -/
theorem indent?_of_get?_eq_some {chain : LeafChain} {id : LeafId} {node : ChainNode}
    (h : chain.get? id = some node) :
    chain.indent? id = some (node.previousOnLine.elim 0 chain.reach + node.leaf.gap.indent) := by
  simp [indent?, h]

end LeafChain

end NotebookLayout
