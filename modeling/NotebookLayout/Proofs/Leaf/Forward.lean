import NotebookLayout.Proofs.Leaf.Ends
import NotebookLayout.Proofs.Leaf.Trail

/-!
# Indents from front to back

Where a leaf begins is found by a walk backwards. This file says that the walk ends, in every chain
that steps lead to, and that it need not be walked for every leaf:

- `LeafSlots.FindsIndent`: the walk as a loop over slots, whatever their links;
- `findsIndent_iff`: in a chain the loop ends, with the leaf's indent;
- `indent?_of_lineStart` and `indent?_of_previousOnLine`: the indent of a leaf from that of the leaf
  in front of it;
- `sweep`: one pass from front to back, which keeps only where the last leaf ends;
- `run_sweep`: after any steps, these equations hold and the pass finds the indent of every leaf.
-/

namespace NotebookLayout

/-! ## The walk as a loop -/

namespace LeafSlots

/-- With some columns counted and a leaf to go on with, the loop ends with the columns given last.
Links are taken as they are: in a ring of leaves the loop would not end. -/
inductive WalksTo (slots : LeafSlots) : Indent → Option LeafId → Indent → Prop where
  /-- There is no leaf in front. -/
  | chainStart {d : Indent} : WalksTo slots d none d
  /-- The link leads to an empty slot. -/
  | emptySlot {d : Indent} {id : LeafId} (h : slots.get? id = none) : WalksTo slots d (some id) d
  /-- The gap of the leaf goes over the end of a line, so the leaf is the last one counted. -/
  | lineStart {d : Indent} {id : LeafId} {node : ChainNode} (h : slots.get? id = some node)
      (hfeed : node.leaf.gap.hasLineFeed = true) :
      WalksTo slots d (some id) (d + node.leaf.advance)
  /-- The leaf is counted, and the loop goes on with the one in front of it. -/
  | back {d result : Indent} {id : LeafId} {node : ChainNode} (h : slots.get? id = some node)
      (hfeed : node.leaf.gap.hasLineFeed = false)
      (hrest : WalksTo slots (d + node.leaf.advance) node.previous result) :
      WalksTo slots d (some id) result

/-- The search for the indent of a leaf ends with an answer: none for an empty slot, the leaf's own
gap if that goes over the end of a line, and otherwise what the walk adds to it. -/
inductive FindsIndent (slots : LeafSlots) (id : LeafId) : Option Indent → Prop where
  | emptySlot (h : slots.get? id = none) : FindsIndent slots id none
  | lineStart {node : ChainNode} (h : slots.get? id = some node)
      (hfeed : node.leaf.gap.hasLineFeed = true) : FindsIndent slots id (some node.leaf.gap.indent)
  | walk {node : ChainNode} {d : Indent} (h : slots.get? id = some node)
      (hfeed : node.leaf.gap.hasLineFeed = false)
      (hwalk : WalksTo slots node.leaf.gap.indent node.previous d) : FindsIndent slots id (some d)

end LeafSlots

/-- Behind the end of a line, no leaf is in front on the line. -/
theorem ChainNode.previousOnLine_of_hasLineFeed {node : ChainNode}
    (h : node.leaf.gap.hasLineFeed = true) : node.previousOnLine = none := if_pos h

/-- Within a line, the leaf in front is in front on the line. -/
theorem ChainNode.previousOnLine_of_not_hasLineFeed {node : ChainNode}
    (h : node.leaf.gap.hasLineFeed = false) : node.previousOnLine = node.previous := by
  rw [previousOnLine, h]
  rfl

/-- A leaf in front on the line has no line end behind it. -/
theorem ChainNode.not_hasLineFeed_of_previousOnLine {node : ChainNode} {p : LeafId}
    (h : node.previousOnLine = some p) : node.leaf.gap.hasLineFeed = false := by
  cases hfeed : node.leaf.gap.hasLineFeed with
  | true => simp [previousOnLine_of_hasLineFeed hfeed] at h
  | false => rfl

namespace LeafChain

/-- The walk adds the columns up to the end of the leaf that it goes on with. -/
theorem eq_of_walksTo {chain : LeafChain} {d result : Indent} {current : Option LeafId}
    (h : chain.slots.WalksTo d current result) : result = d + current.elim 0 chain.reach := by
  induction h with
  | chainStart => rfl
  | emptySlot h => rw [Option.elim_some, reach_of_get?_eq_none h, Indent.add_zero]
  | lineStart h hfeed =>
    rw [Option.elim_some, reach_eq_advance h, ChainNode.previousOnLine_of_hasLineFeed hfeed]
    rfl
  | back h hfeed _ ih =>
    rw [Option.elim_some, reach_eq_advance h, ChainNode.previousOnLine_of_not_hasLineFeed hfeed, ih,
      Indent.add_assoc]

/-- The walk ends, since links lead to smaller numbers. -/
theorem walksTo_reach (chain : LeafChain) (d : Indent) (id : LeafId) :
    chain.slots.WalksTo d (some id) (d + chain.reach id) := by
  induction id using walk_induction chain generalizing d with
  | empty id h =>
    rw [reach_of_get?_eq_none h, Indent.add_zero]
    exact .emptySlot h
  | lineStart id node h hp =>
    rw [reach_eq_advance h, hp]
    -- The walk goes no further because of the gap, or because there is no leaf in front.
    cases hfeed : node.leaf.gap.hasLineFeed with
    | true => exact .lineStart h hfeed
    | false =>
      rw [ChainNode.previousOnLine_of_not_hasLineFeed hfeed] at hp
      apply LeafSlots.WalksTo.back h hfeed
      rw [hp]
      exact .chainStart
  | back id node p h hp ih =>
    have hfeed := ChainNode.not_hasLineFeed_of_previousOnLine hp
    rw [reach_eq_advance h, hp, Option.elim_some, ← Indent.add_assoc]
    apply LeafSlots.WalksTo.back h hfeed
    rw [ChainNode.previous_of_previousOnLine hp]
    exact ih _

/-- The search ends for every number, and finds just the indent. -/
theorem findsIndent_iff (chain : LeafChain) (id : LeafId) (found : Option Indent) :
    chain.slots.FindsIndent id found ↔ found = chain.indent? id := by
  constructor
  · -- One case for each way that the search can end.
    intro h
    cases h with
    | emptySlot h => rw [indent?, get?, h]; rfl
    | lineStart h hfeed =>
      rw [indent?_of_get?_eq_some h, ChainNode.previousOnLine_of_hasLineFeed hfeed,
        Option.elim_none, Indent.zero_add]
    | walk h hfeed hwalk =>
      rw [indent?_of_get?_eq_some h, ChainNode.previousOnLine_of_not_hasLineFeed hfeed,
        eq_of_walksTo hwalk, Indent.add_comm]
  · rintro rfl
    cases h : chain.get? id with
    | none =>
      rw [indent?, h]
      exact .emptySlot h
    | some node =>
      rw [indent?_of_get?_eq_some h, Indent.add_comm]
      cases hfeed : node.leaf.gap.hasLineFeed with
      | true =>
        rw [ChainNode.previousOnLine_of_hasLineFeed hfeed]
        exact .lineStart h hfeed
      | false =>
        rw [ChainNode.previousOnLine_of_not_hasLineFeed hfeed]
        refine .walk h hfeed ?_
        cases node.previous with
        | none => exact .chainStart
        | some p => exact chain.walksTo_reach _ p

/-! ## From one leaf to the next -/

/-- A leaf at the start of a line, or of the chain, is behind its own gap only. -/
theorem indent?_of_lineStart {chain : LeafChain} {id : LeafId} {node : ChainNode}
    (h : chain.get? id = some node) (hp : node.previousOnLine = none) :
    chain.indent? id = some node.leaf.gap.indent := by
  rw [indent?_of_get?_eq_some h, hp, Option.elim_none, Indent.zero_add]

/-- Any other leaf is behind the leaf in front of it and its own gap. -/
theorem indent?_of_previousOnLine {chain : LeafChain} {id p : LeafId} {node before : ChainNode}
    (h : chain.get? id = some node) (hp : node.previousOnLine = some p)
    (hbefore : chain.get? p = some before) :
    ∃ d, chain.indent? p = some d ∧
      chain.indent? id = some (d + node.leaf.gap.indent + .ofSpaces before.leaf.width) := by
  refine ⟨_, indent?_of_get?_eq_some hbefore, ?_⟩
  rw [indent?_of_get?_eq_some h, hp, Option.elim_some, reach_of_get?_eq_some hbefore,
    Indent.add_assoc _ node.leaf.gap.indent, Indent.add_comm node.leaf.gap.indent, Indent.add_assoc]

/-- One pass over leaves from front to back, which gives each its indent. All that it keeps from one
leaf to the next is where the leaf ends. -/
def sweep (reached : Indent) : List (LeafId × ChainNode) → List (LeafId × Indent)
  | [] => []
  | (id, node) :: rest =>
    let d := (if node.previousOnLine.isSome then reached else 0) + node.leaf.gap.indent
    (id, d) :: sweep (d + .ofSpaces node.leaf.width) rest

/-- The pass goes on rightly from any leaf, if it has come to where the leaf in front ends. -/
theorem WellLinked.sweep_eq {chain : LeafChain} (h : chain.WellLinked)
    (before rest : List (LeafId × ChainNode)) (hentries : chain.entries = before ++ rest) :
    (sweep ((before.map (·.1)).getLast?.elim 0 chain.reach) rest).map
        (fun (id, d) => (id, some d)) =
      rest.map fun e => (e.1, chain.indent? e.1) := by
  induction rest generalizing before with
  | nil => rfl
  | cons e rest ih =>
    obtain ⟨id, node⟩ := e
    have hget : chain.get? id = some node := mem_entries.1 (by rw [hentries]; simp)
    have hids : chain.ids = before.map (·.1) ++ id :: rest.map (·.1) := by
      rw [ids, hentries, List.map_append, List.map_cons]
    -- A link can only lead to the leaf that the pass has just left.
    have hreached : (if node.previousOnLine.isSome then
        (before.map (·.1)).getLast?.elim 0 chain.reach else 0) =
          node.previousOnLine.elim 0 chain.reach := by
      cases hp : node.previousOnLine with
      | none => rfl
      | some p =>
        have hprevious : chain.previous? id = some p :=
          (previous?_of_get? hget).trans (ChainNode.previous_of_previousOnLine hp)
        rw [h.getLast?_of_previous? hids hprevious]
        rfl
    have hrest := ih (before ++ [(id, node)]) (by rw [hentries]; simp)
    rw [List.map_append, List.map_singleton, List.getLast?_concat, Option.elim_some,
      reach_of_get?_eq_some hget] at hrest
    rw [sweep, hreached, List.map_cons, List.map_cons, indent?_of_get?_eq_some hget, hrest]

/-- After any steps, the search for an indent ends, with one answer. A leaf at the start of a line
or without a leaf in front of it is behind its own gap; any other leaf is behind the leaf in front
of it, the columns of that leaf, and its own gap. So one pass from front to back gives every leaf
its indent. -/
theorem run_sweep (steps : List ChainStep) :
    let chain := LeafChain.empty.run steps
    (∀ id found, chain.slots.FindsIndent id found ↔ found = chain.indent? id) ∧
      (∀ id node, chain.get? id = some node →
        (node.leaf.gap.hasLineFeed = true ∨ chain.previous? id = none →
          chain.indent? id = some node.leaf.gap.indent) ∧
        ∀ p, node.leaf.gap.hasLineFeed = false → chain.previous? id = some p →
          ∃ before d, chain.get? p = some before ∧ chain.indent? p = some d ∧
            chain.indent? id = some (d + node.leaf.gap.indent + .ofSpaces before.leaf.width)) ∧
      (sweep 0 chain.entries).map (fun (id, d) => (id, some d)) =
        chain.ids.map fun id => (id, chain.indent? id) := by
  intro chain
  have h : chain.WellLinked := run_wellLinked steps
  refine ⟨chain.findsIndent_iff, ?leaf, ?pass⟩
  case leaf =>
    intro id node hget
    have hprevious := previous?_of_get? hget
    rw [hprevious]
    constructor
    · rintro (hfeed | hnone)
      · exact indent?_of_lineStart hget (ChainNode.previousOnLine_of_hasLineFeed hfeed)
      · refine indent?_of_lineStart hget ?_
        rw [ChainNode.previousOnLine, hnone, ite_self]
    · intro p hfeed hp
      -- Links are mutual, so the leaf in front is there.
      obtain ⟨before, hbefore⟩ :=
        isLive_iff.1 (isLive_of_next? (h.next_of_previous p id (hprevious.trans hp)))
      have hline : node.previousOnLine = some p := by
        rw [ChainNode.previousOnLine_of_not_hasLineFeed hfeed, hp]
      obtain ⟨d, hd, hindent⟩ := indent?_of_previousOnLine hget hline hbefore
      exact ⟨before, d, hbefore, hd, hindent⟩
  case pass =>
    have hsweep := h.sweep_eq [] chain.entries rfl
    rw [ids, List.map_map]
    exact hsweep

/-- The second of three leaves is disposed of, and a leaf behind a tab is pushed, disposed of and
pushed again. The third leaf is where a cut link leaves it, and the last one is behind that leaf. -/
theorem run_sweep_pushed_again :
    let leaf (start stop : Nat) (t : Text) : Leaf :=
      ⟨.word, ⟨start, stop⟩, .measure 4 (start - Text.byteSize t) t, false, stop - start, false⟩
    let steps : List ChainStep :=
      [.push (leaf 0 2 []), .push (leaf 3 5 [' ']), .push (leaf 6 7 [' ']), .dispose 1,
        .push (leaf 8 9 ['\t']), .dispose 3, .push (leaf 8 9 ['\t'])]
    let chain := LeafChain.empty.run steps
    chain.ids = [0, 2, 4] ∧
      chain.IsLive 2 ∧ chain.previous? 2 = none ∧ chain.indent? 2 = some ⟨0, 1⟩ ∧
      chain.IsLive 4 ∧ chain.previous? 4 = some 2 ∧ chain.indent? 4 = some ⟨4, 2⟩ ∧
      sweep 0 chain.entries = [(0, ⟨0, 0⟩), (2, ⟨0, 1⟩), (4, ⟨4, 2⟩)] := by
  intro leaf steps chain
  obtain ⟨-, hleaf, -⟩ := run_sweep steps
  obtain ⟨third, hthird, hgap⟩ : ∃ node, chain.get? 2 = some node ∧
      (node.leaf.gap.indent, node.leaf.width) = (⟨0, 1⟩, 1) :=
    Option.map_eq_some_iff.1 (by decide)
  obtain ⟨fourth, hend, hline⟩ : ∃ node, chain.get? 4 = some node ∧
      (node.leaf.gap.indent, node.leaf.gap.hasLineFeed) = (⟨4, 0⟩, false) :=
    Option.map_eq_some_iff.1 (by decide)
  obtain ⟨hgap, hwidth⟩ := Prod.mk.inj hgap
  obtain ⟨htab, hline⟩ := Prod.mk.inj hline
  have hprevious : chain.previous? 2 = none := by decide
  have hlink : chain.previous? 4 = some 2 := by decide
  have hindent : chain.indent? 2 = some ⟨0, 1⟩ := by
    rw [(hleaf 2 third hthird).1 (Or.inr hprevious), hgap]
  obtain ⟨before, d, hbefore, hd, hlast⟩ := (hleaf 4 fourth hend).2 2 hline hlink
  obtain rfl : third = before := Option.some.inj (hthird.symm.trans hbefore)
  obtain rfl : ⟨0, 1⟩ = d := Option.some.inj (hindent.symm.trans hd)
  rw [htab, hwidth] at hlast
  exact ⟨by decide, by decide, hprevious, hindent, by decide, hlink, hlast, by decide⟩

end LeafChain

end NotebookLayout
