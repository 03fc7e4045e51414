import NotebookLayout.Leaf.Position
import NotebookLayout.Proofs.Leaf.Gap
import NotebookLayout.Proofs.Leaf.Run

/-!
# The leaves that a walk visits

Where a leaf begins is found by walking back through the chain. This file lists the leaves on the
way:

- `trail` and `visited`: the leaves that the walk goes over, with the leaf itself and without it;
- `reach_eq_sum` and `indent?_eq_sum`: the columns that the walk adds up;
- `visited_push` and `indent?_push`: adding a leaf changes neither the walk from another leaf nor
  where that leaf is;
- `visited_push_nextId` and `indent?_push_nextId`: the walk from the new leaf goes over the leaves
  that it is put behind.
-/

namespace NotebookLayout

/-- Indents may be summed up in any grouping. -/
theorem Indent.add_assoc (a b c : Indent) : a + b + c = a + (b + c) := by
  ext <;> simp [Nat.add_assoc]

/-- Indents may be summed up in any order. -/
theorem Indent.add_comm (a b : Indent) : a + b = b + a := by
  ext <;> simp [Nat.add_comm]

theorem Indent.add_zero (d : Indent) : d + 0 = d := rfl

theorem Indent.zero_add (d : Indent) : 0 + d = d := by
  rw [add_comm, add_zero]

/-- How far a leaf with its gap moves a place on its line. -/
def Leaf.advance (leaf : Leaf) : Indent := leaf.gap.indent + .ofSpaces leaf.width

namespace LeafChain

/-! ## The walk back -/

/-- The leaves on the walk back from a leaf, with their numbers: itself, then those in front of it,
the nearest first, up to one whose gap goes over the end of a line or the start of the chain. -/
def trail (chain : LeafChain) (id : LeafId) : List (LeafId × Leaf) :=
  match _ : chain.get? id with
  | none => []
  | some node =>
    let before :=
      match _ : node.previousOnLine with
      | some p => chain.trail p
      | none => []
    (id, node.leaf) :: before
termination_by id
decreasing_by exact chain.previous_lt ‹_› (ChainNode.previous_of_previousOnLine ‹_›)

/-- The leaves that the walk back from a leaf visits, the nearest first. -/
def visited (chain : LeafChain) (id : LeafId) : List (LeafId × Leaf) :=
  (chain.get? id >>= (·.previousOnLine)).elim [] chain.trail

/-- A trail goes on with that of the leaf in front on the line. -/
theorem trail_of_get?_eq_some {chain : LeafChain} {id : LeafId} {node : ChainNode}
    (h : chain.get? id = some node) :
    chain.trail id = (id, node.leaf) :: node.previousOnLine.elim [] chain.trail := by
  rw [trail]
  split <;> simp_all
  split <;> simp_all

/-- A number without a leaf has no trail. -/
theorem trail_of_get?_eq_none {chain : LeafChain} {id : LeafId} (h : chain.get? id = none) :
    chain.trail id = [] := by
  rw [trail]
  split <;> simp_all

/-- The leaves visited are the trail of the leaf in front on the line. -/
theorem visited_of_get?_eq_some {chain : LeafChain} {id : LeafId} {node : ChainNode}
    (h : chain.get? id = some node) :
    chain.visited id = node.previousOnLine.elim [] chain.trail := by
  rw [visited, h]
  rfl

/-- What holds of numbers without a leaf and of leaves from which no walk goes on, and of a leaf
from which one goes on if it holds of the next leaf on the way, holds of every number. -/
@[elab_as_elim]
theorem walk_induction (chain : LeafChain) {motive : LeafId → Prop}
    (empty : ∀ id, chain.get? id = none → motive id)
    (lineStart : ∀ id node, chain.get? id = some node → node.previousOnLine = none → motive id)
    (back : ∀ id node p, chain.get? id = some node → node.previousOnLine = some p → motive p →
      motive id) (id : LeafId) : motive id := by
  -- The walk goes on to smaller numbers.
  induction id using Nat.strongRecOn with
  | ind id ih =>
    cases h : chain.get? id with
    | none => exact empty id h
    | some node =>
      cases hp : node.previousOnLine with
      | none => exact lineStart id node h hp
      | some p =>
        have hlt := chain.previous_lt h (ChainNode.previous_of_previousOnLine hp)
        exact back id node p h hp (ih p hlt)

/-- The columns up to the end of a leaf, by the leaf in front of it. -/
theorem reach_eq_advance {chain : LeafChain} {id : LeafId} {node : ChainNode}
    (h : chain.get? id = some node) :
    chain.reach id = node.leaf.advance + node.previousOnLine.elim 0 chain.reach := by
  rw [reach_of_get?_eq_some h, Indent.add_assoc, Indent.add_comm]
  rfl

/-- The columns up to the end of a leaf are those of the leaves on its trail. -/
theorem reach_eq_sum (chain : LeafChain) (id : LeafId) :
    chain.reach id = ((chain.trail id).map (·.2.advance)).sum := by
  induction id using walk_induction chain with
  | empty id h =>
    rw [reach_of_get?_eq_none h, trail_of_get?_eq_none h]
    rfl
  | lineStart id node h hp =>
    rw [reach_eq_advance h, trail_of_get?_eq_some h, hp]
    rfl
  | back id node p h hp ih =>
    rw [reach_eq_advance h, trail_of_get?_eq_some h, hp, Option.elim_some, ih, Option.elim_some,
      List.map_cons, List.sum_cons]

/-- The columns in front of a line are none, and so are those of no leaves. -/
theorem elim_reach (chain : LeafChain) (previous : Option LeafId) :
    previous.elim 0 chain.reach = ((previous.elim [] chain.trail).map (·.2.advance)).sum := by
  cases previous with
  | none => rfl
  | some p => exact chain.reach_eq_sum p

/-- The columns in front of a leaf are those of the leaves visited and of its own gap. -/
theorem indent?_eq_sum {chain : LeafChain} {id : LeafId} {node : ChainNode}
    (h : chain.get? id = some node) :
    chain.indent? id =
      some (((chain.visited id).map (·.2.advance)).sum + node.leaf.gap.indent) := by
  rw [indent?_of_get?_eq_some h, visited_of_get?_eq_some h, elim_reach]

/-- The same of a number that need not have a leaf. -/
theorem indent?_eq_map_leaf? (chain : LeafChain) (id : LeafId) :
    chain.indent? id = (chain.leaf? id).map fun leaf =>
      ((chain.visited id).map (·.2.advance)).sum + leaf.gap.indent := by
  cases h : chain.get? id with
  | none =>
    rw [indent?, leaf?, h]
    rfl
  | some node =>
    rw [indent?_eq_sum h, leaf?_of_get? h]
    rfl

/-- The leaves that the walk would visit from a leaf with the gap, if it were put at the end. -/
def trailAfter (chain : LeafChain) (gap : Gap) : List (LeafId × Leaf) :=
  (if gap.hasLineFeed then none else chain.last).elim [] chain.trail

/-- The columns from the start of the line to a leaf with the gap, if it were put at the end. -/
def indentAfter (chain : LeafChain) (gap : Gap) : Indent :=
  (if gap.hasLineFeed then none else chain.last).elim 0 chain.reach + gap.indent

/-- A leaf at the end would come after the leaves that it visits and its own gap. -/
theorem indentAfter_eq_sum (chain : LeafChain) (gap : Gap) :
    chain.indentAfter gap = ((chain.trailAfter gap).map (·.2.advance)).sum + gap.indent := by
  rw [indentAfter, elim_reach]
  rfl

/-- What is on a trail is a leaf of the chain. -/
theorem leaf?_of_mem_trail {chain : LeafChain} {id : LeafId} {e : LeafId × Leaf}
    (h : e ∈ chain.trail id) : chain.leaf? e.1 = some e.2 := by
  induction id using walk_induction chain with
  | empty id hget => simp [trail_of_get?_eq_none hget] at h
  | lineStart id node hget hp =>
    rw [trail_of_get?_eq_some hget, hp] at h
    obtain rfl := List.mem_singleton.1 h
    exact leaf?_of_get? hget
  | back id node p hget hp ih =>
    rw [trail_of_get?_eq_some hget, hp] at h
    rcases List.mem_cons.1 h with rfl | h
    · exact leaf?_of_get? hget
    · exact ih h

/-- So is what is visited. -/
theorem leaf?_of_mem_visited {chain : LeafChain} {id : LeafId} {e : LeafId × Leaf}
    (h : e ∈ chain.visited id) : chain.leaf? e.1 = some e.2 := by
  rw [visited] at h
  cases hp : chain.get? id >>= (·.previousOnLine) with
  | none => simp [hp] at h
  | some p =>
    rw [hp] at h
    exact leaf?_of_mem_trail h

/-! ## White space at the end -/

/-- White space on the line does not change which leaves would be visited. -/
theorem trailAfter_append {tabSize : Nat} {w : Text} (chain : LeafChain) (gap : Gap)
    (hw : '\n' ∉ w) : chain.trailAfter (gap.append tabSize w) = chain.trailAfter gap := by
  rw [trailAfter, Gap.hasLineFeed_append_of_notMem tabSize gap hw]
  rfl

/-- Behind the end of a line no leaf would be visited. -/
theorem trailAfter_append_of_mem {tabSize : Nat} {w : Text} (chain : LeafChain) (gap : Gap)
    (hw : '\n' ∈ w) : chain.trailAfter (gap.append tabSize w) = [] := by
  rw [trailAfter, if_pos ((Gap.hasLineFeed_append tabSize gap w).2 (Or.inr hw))]
  rfl

/-! ## Adding a leaf -/

/-- A leaf that was there stays, at the same place of its line. -/
theorem get?_push_of_ne {chain : LeafChain} {id : LeafId} (leaf : Leaf) (hid : id ≠ chain.nextId)
    {node : ChainNode} (h : chain.get? id = some node) :
    ∃ node', (chain.push leaf).get? id = some node' ∧ node'.leaf = node.leaf ∧
      node'.previousOnLine = node.previousOnLine := by
  rw [get?_push, if_neg hid, h]
  split
  · exact ⟨node.linkNext chain.nextId, rfl, rfl, rfl⟩
  · exact ⟨node, rfl, rfl, rfl⟩

/-- No leaf comes up where there was none. -/
theorem get?_push_eq_none {chain : LeafChain} {id : LeafId} (leaf : Leaf)
    (hid : id ≠ chain.nextId) (h : chain.get? id = none) : (chain.push leaf).get? id = none := by
  rw [get?_push, if_neg hid, h]
  split <;> rfl

/-- The new leaf is linked to the one that was last. -/
theorem get?_push_nextId (chain : LeafChain) (leaf : Leaf) :
    (chain.push leaf).get? chain.nextId = some ⟨leaf, chain.last, none⟩ := by
  rw [get?_push, if_pos rfl]

/-- Adding a leaf changes no other trail. -/
theorem trail_push (chain : LeafChain) (leaf : Leaf) {id : LeafId} (hid : id ≠ chain.nextId) :
    (chain.push leaf).trail id = chain.trail id := by
  induction id using walk_induction chain with
  | empty id h => rw [trail_of_get?_eq_none h, trail_of_get?_eq_none (get?_push_eq_none leaf hid h)]
  | lineStart id node h hp =>
    obtain ⟨node', h', hleaf, hprevious⟩ := get?_push_of_ne leaf hid h
    rw [trail_of_get?_eq_some h, trail_of_get?_eq_some h', hleaf, hprevious, hp]
    rfl
  | back id node p h hp ih =>
    obtain ⟨node', h', hleaf, hprevious⟩ := get?_push_of_ne leaf hid h
    -- The walk goes on to a smaller number, which is no more the new one than `id` is.
    have hlt := chain.previous_lt h (ChainNode.previous_of_previousOnLine hp)
    have hlast : id < chain.nextId := LeafSlots.lt_size_of_get?_eq_some h
    rw [trail_of_get?_eq_some h, trail_of_get?_eq_some h', hleaf, hprevious, hp, Option.elim_some,
      Option.elim_some, ih (Nat.ne_of_lt (Nat.lt_trans hlt hlast))]

/-- The same of a leaf that there may not be. -/
theorem elim_trail_push {chain : LeafChain} {previous : Option LeafId} (leaf : Leaf)
    (h : ∀ p, previous = some p → p < chain.nextId) :
    previous.elim [] (chain.push leaf).trail = previous.elim [] chain.trail := by
  cases previous with
  | none => rfl
  | some p => exact chain.trail_push leaf (Nat.ne_of_lt (h p rfl))

/-- So every other leaf visits the same leaves as before. -/
theorem visited_push (chain : LeafChain) (leaf : Leaf) {id : LeafId} (hid : id ≠ chain.nextId) :
    (chain.push leaf).visited id = chain.visited id := by
  cases h : chain.get? id with
  | none =>
    rw [visited, visited, h, get?_push_eq_none leaf hid h]
    rfl
  | some node =>
    obtain ⟨node', h', -, hprevious⟩ := get?_push_of_ne leaf hid h
    have hlast : id < chain.nextId := LeafSlots.lt_size_of_get?_eq_some h
    rw [visited_of_get?_eq_some h, visited_of_get?_eq_some h', hprevious]
    exact elim_trail_push leaf fun p hp =>
      Nat.lt_trans (chain.previous_lt h (ChainNode.previous_of_previousOnLine hp)) hlast

/-- The walk from the new leaf goes over the leaves that it is put behind. -/
theorem visited_push_nextId (chain : LeafChain) (leaf : Leaf) :
    (chain.push leaf).visited chain.nextId = chain.trailAfter leaf.gap := by
  rw [visited_of_get?_eq_some (get?_push_nextId chain leaf)]
  -- The leaf in front was there before, so its own walk is not changed.
  refine elim_trail_push leaf fun p hp => ?_
  change (if leaf.gap.hasLineFeed then none else chain.last) = some p at hp
  split at hp
  · simp at hp
  · exact chain.last_lt p hp

/-- A leaf that came right behind the new leaf would have it on its walk. -/
theorem trailAfter_push (chain : LeafChain) (leaf : Leaf) (offset : Nat) :
    (chain.push leaf).trailAfter (.empty offset) =
      (chain.nextId, leaf) :: chain.trailAfter leaf.gap := by
  have h := trail_of_get?_eq_some (get?_push_nextId chain leaf)
  rw [← visited_of_get?_eq_some (get?_push_nextId chain leaf), visited_push_nextId] at h
  exact h

/-- Adding a leaf puts no other leaf elsewhere. -/
theorem indent?_push (chain : LeafChain) (leaf : Leaf) {id : LeafId} (hid : id ≠ chain.nextId) :
    (chain.push leaf).indent? id = chain.indent? id := by
  cases h : chain.get? id with
  | none =>
    rw [indent?, indent?, h, get?_push_eq_none leaf hid h]
    rfl
  | some node =>
    obtain ⟨node', h', hleaf, -⟩ := get?_push_of_ne leaf hid h
    rw [indent?_eq_sum h, indent?_eq_sum h', hleaf, chain.visited_push leaf hid]

/-- The new leaf is where a leaf with its gap would be. -/
theorem indent?_push_nextId (chain : LeafChain) (leaf : Leaf) :
    (chain.push leaf).indent? chain.nextId = some (chain.indentAfter leaf.gap) := by
  rw [indent?_eq_sum (get?_push_nextId chain leaf), visited_push_nextId, indentAfter_eq_sum]

/-- A leaf right behind the new one begins where the new one ends. -/
theorem indentAfter_push (chain : LeafChain) (leaf : Leaf) (offset : Nat) :
    (chain.push leaf).indentAfter (.empty offset) =
      chain.indentAfter leaf.gap + .ofSpaces leaf.width := by
  rw [indentAfter_eq_sum, indentAfter_eq_sum, trailAfter_push, List.map_cons, List.sum_cons,
    Indent.add_comm leaf.advance, Leaf.advance, ← Indent.add_assoc]
  rfl

end LeafChain

end NotebookLayout
