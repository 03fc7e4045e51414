import NotebookLayout.Proofs.Leaf.Links
import NotebookLayout.Proofs.Leaf.Trail

/-!
# The order of disposals

Disposing of leaves one after another cuts the links to each of them, and the chains on the way
depend on which leaf goes first. What is left does not:

- `WellLinked.get?_congr`, `entries_congr` and `indent?_congr`: well-linked chains with the same
  leaves and the same links forwards agree in their entries and in where their leaves are;
- `leaf?_disposeAll` and `WellLinked.next?_disposeAll_iff`: the leaves and links left when several
  leaves are disposed of, told without an order;
- `run_disposeAll_perm`: so disposing of them in another order leaves the same.

Where the chain begins and ends does depend on the order.
-/

namespace NotebookLayout

attribute [ext] ChainNode

namespace LeafChain

/-! ## Chains with the same leaves and links -/

/-- A link goes both ways or none. -/
theorem WellLinked.previous?_eq_some_iff {chain : LeafChain} (h : chain.WellLinked) {i j : LeafId} :
    chain.previous? j = some i ↔ chain.next? i = some j :=
  ⟨h.next_of_previous i j, h.previous_of_next i j⟩

section Congr

variable {a b : LeafChain}

/-- A node is known by its leaf and its links. -/
theorem get?_ext {id : LeafId} (hleaf : a.leaf? id = b.leaf? id)
    (hprevious : a.previous? id = b.previous? id) (hnext : a.next? id = b.next? id) :
    a.get? id = b.get? id := by
  unfold leaf? at hleaf
  unfold previous? at hprevious
  unfold next? at hnext
  -- The leaves already tell whether there is a node, so only its parts are left to compare.
  cases ha : a.get? id with
  | none =>
    rw [ha, Option.map_none, eq_comm, Option.map_eq_none_iff] at hleaf
    exact hleaf.symm
  | some node =>
    rw [ha, Option.map_some, eq_comm, Option.map_eq_some_iff] at hleaf
    obtain ⟨other, hb, hother⟩ := hleaf
    rw [ha, hb] at hprevious hnext
    rw [hb]
    exact congrArg some (ChainNode.ext hother.symm hprevious hnext)

/-- Links are mutual, so those backwards need not be compared. -/
theorem WellLinked.get?_congr (ha : a.WellLinked) (hb : b.WellLinked)
    (hleaf : ∀ id, a.leaf? id = b.leaf? id) (hnext : ∀ id, a.next? id = b.next? id)
    (id : LeafId) : a.get? id = b.get? id := by
  refine get?_ext (hleaf id) ?_ (hnext id)
  apply Option.ext
  intro i
  rw [ha.previous?_eq_some_iff, hb.previous?_eq_some_iff, hnext]

/-- Chains with the same slots have the same leaves and links. -/
theorem entries_congr (hsize : a.slots.size = b.slots.size) (h : ∀ id, a.get? id = b.get? id) :
    a.entries = b.entries := by
  rw [entries, entries, hsize]
  refine List.filterMap_congr fun id _ => ?_
  rw [h]

/-- Their leaves reach equally far. -/
theorem reach_congr (h : ∀ id, a.get? id = b.get? id) (id : LeafId) : a.reach id = b.reach id := by
  -- The walk comes by the same nodes in both chains, so the cases of one are those of the other.
  induction id using walk_induction a with
  | empty id hget => rw [reach_of_get?_eq_none hget, reach_of_get?_eq_none (h id ▸ hget)]
  | lineStart id node hget hp =>
    rw [reach_eq_advance hget, reach_eq_advance (h id ▸ hget), hp]
    rfl
  | back id node p hget hp ih =>
    rw [reach_eq_advance hget, reach_eq_advance (h id ▸ hget), hp, Option.elim_some,
      Option.elim_some, ih]

/-- Their leaves begin at the same places. -/
theorem indent?_congr (h : ∀ id, a.get? id = b.get? id) (id : LeafId) :
    a.indent? id = b.indent? id := by
  have hreach : a.reach = b.reach := funext (reach_congr h)
  rw [indent?, indent?, h, hreach]

end Congr

/-! ## Disposing of leaves -/

/-- Disposing of a leaf keeps just the links between other leaves. -/
theorem WellLinked.next?_dispose_iff {chain : LeafChain} (h : chain.WellLinked) {id i j : LeafId} :
    (chain.dispose id).2.next? i = some j ↔ chain.next? i = some j ∧ i ≠ id ∧ j ≠ id := by
  rcases chain.dispose_cases id with ⟨node, hget, heq⟩ | ⟨hdead, heq⟩
  · rw [heq, h.next?_remove_iff hget]
  · -- No link is from or to a number without a leaf.
    rw [heq, iff_self_and]
    intro hij
    have hi := isLive_of_next? hij
    have hj := isLive_of_previous? (h.previous_of_next i j hij)
    rw [← not_isLive_iff] at hdead
    exact ⟨fun hid => hdead (hid ▸ hi), fun hid => hdead (hid ▸ hj)⟩

/-- The chain after disposing of the leaves with the numbers, one after another. -/
def disposeAll (chain : LeafChain) (ids : List LeafId) : LeafChain :=
  chain.run (ids.map .dispose)

@[simp] theorem disposeAll_nil (chain : LeafChain) : chain.disposeAll [] = chain := rfl

@[simp] theorem disposeAll_cons (chain : LeafChain) (id : LeafId) (ids : List LeafId) :
    chain.disposeAll (id :: ids) = (chain.dispose id).2.disposeAll ids := rfl

/-- Disposing leaves all slots. -/
theorem size_slots_disposeAll (chain : LeafChain) (ids : List LeafId) :
    (chain.disposeAll ids).slots.size = chain.slots.size := by
  induction ids generalizing chain with
  | nil => rfl
  | cons id ids ih => rw [disposeAll_cons, ih, size_slots_dispose]

/-- The leaves disposed of are gone, and no others. -/
theorem leaf?_disposeAll (chain : LeafChain) (ids : List LeafId) (i : LeafId) :
    (chain.disposeAll ids).leaf? i = if i ∈ ids then none else chain.leaf? i := by
  induction ids generalizing chain with
  | nil => rfl
  | cons id ids ih =>
    rw [disposeAll_cons, ih, leaf?_dispose]
    by_cases hid : i = id <;> simp [hid]

/-- The leaves left are those not disposed of. -/
theorem leaves_disposeAll (chain : LeafChain) (ids : List LeafId) :
    (chain.disposeAll ids).leaves = chain.leaves.filter (·.1 ∉ ids) := by
  rw [leaves_eq_filterMap, leaves_eq_filterMap, size_slots_disposeAll, List.filter_filterMap]
  refine List.filterMap_congr fun i _ => ?_
  rw [leaf?_disposeAll]
  by_cases hi : i ∈ ids <;> cases chain.leaf? i <;> simp [hi, Option.filter]

section DisposeAll

variable {chain : LeafChain} (h : chain.WellLinked) (ids : List LeafId)

include h

/-- Disposing breaks no link on one side only. -/
theorem WellLinked.disposeAll : (chain.disposeAll ids).WellLinked :=
  run_of_apply (fun _ s h => h.apply s) h _

/-- The links left are those between leaves that are left. -/
theorem WellLinked.next?_disposeAll_iff {i j : LeafId} :
    (chain.disposeAll ids).next? i = some j ↔ chain.next? i = some j ∧ i ∉ ids ∧ j ∉ ids := by
  induction ids generalizing chain with
  | nil => simp
  | cons id ids ih =>
    have hdisposed : (chain.dispose id).2.WellLinked := h.apply (.dispose id)
    rw [disposeAll_cons, ih hdisposed, h.next?_dispose_iff, List.mem_cons, List.mem_cons, not_or,
      not_or]
    tauto

/-- What is left depends on nothing but which numbers were disposed of. -/
theorem WellLinked.get?_disposeAll_congr {ids ids' : List LeafId} (hids : ∀ i, i ∈ ids ↔ i ∈ ids')
    (id : LeafId) : (chain.disposeAll ids).get? id = (chain.disposeAll ids').get? id := by
  refine (h.disposeAll ids).get?_congr (h.disposeAll ids') ?_ ?_ id
  · intro i
    rw [leaf?_disposeAll, leaf?_disposeAll, if_congr (hids i) rfl rfl]
  · intro i
    apply Option.ext
    intro j
    rw [h.next?_disposeAll_iff, h.next?_disposeAll_iff, hids, hids]

end DisposeAll

/-! ## Runs -/

/-- Disposing of leaves after any steps, in one order or another, leaves the same leaves, which are
linked in the same way and are at the same columns: those not disposed of, with the links between
them. -/
theorem run_disposeAll_perm (steps : List ChainStep) {ids ids' : List LeafId}
    (hperm : ids.Perm ids') :
    let chain := LeafChain.empty.run steps
    let one := chain.disposeAll ids
    let other := chain.disposeAll ids'
    (one.entries = other.entries ∧ one.leaves = chain.leaves.filter (·.1 ∉ ids)) ∧
      (∀ i, one.previous? i = other.previous? i ∧ one.next? i = other.next? i) ∧
      (∀ i j, one.next? i = some j ↔ chain.next? i = some j ∧ i ∉ ids ∧ j ∉ ids) ∧
      one.size = other.size ∧ ∀ i, one.indent? i = other.indent? i := by
  intro chain one other
  have h : chain.WellLinked := run_wellLinked steps
  have hget : ∀ i, one.get? i = other.get? i := h.get?_disposeAll_congr fun _ => hperm.mem_iff
  have hslots : one.slots.size = other.slots.size := by
    rw [size_slots_disposeAll, size_slots_disposeAll]
  have hentries : one.entries = other.entries := entries_congr hslots hget
  refine ⟨⟨hentries, chain.leaves_disposeAll ids⟩, ?links, ?kept, ?size, indent?_congr hget⟩
  case links =>
    intro i
    rw [previous?, previous?, next?, next?, hget]
    exact ⟨rfl, rfl⟩
  case kept => exact fun i j => h.next?_disposeAll_iff ids
  case size =>
    -- The size is the number of entries.
    rw [(h.disposeAll ids).size_eq, (h.disposeAll ids').size_eq, length_ids, length_ids, hentries]

/-- Disposing of the first two of four leaves in one order leaves no place where the chain begins,
in the other order it begins at the third leaf; the two leaves left, the last one of them behind the
other, do not show it. -/
theorem run_disposeAll_perm_first :
    let leaf (start stop : Nat) : Leaf :=
      ⟨.word, ⟨start, stop⟩, .empty start, false, stop - start, false⟩
    let chain := LeafChain.empty.run
      [.push (leaf 0 1), .push (leaf 1 3), .push (leaf 3 6), .push (leaf 6 10)]
    let one := chain.disposeAll [1, 0, 7, 1]
    let other := chain.disposeAll [0, 1, 1, 7]
    [1, 0, 7, 1].Perm [0, 1, 1, 7] ∧ one.first = none ∧ other.first = some 2 ∧
      one.leaves = [(2, leaf 3 6), (3, leaf 6 10)] ∧ one.entries = other.entries ∧
      other.previous? 3 = some 2 ∧ one.previous? 3 = some 2 ∧ one.size = other.size ∧
      other.indent? 3 = some ⟨0, 3⟩ ∧ one.indent? 3 = some ⟨0, 3⟩ := by
  intro leaf chain one other
  have hperm : [1, 0, 7, 1].Perm [0, 1, 1, 7] := by decide
  obtain ⟨⟨hentries, hleaves⟩, hlinks, -, hsize, hindent⟩ := run_disposeAll_perm
    [.push (leaf 0 1), .push (leaf 1 3), .push (leaf 3 6), .push (leaf 6 10)] hperm
  have hprevious : other.previous? 3 = some 2 := by decide
  have hcolumns : other.indent? 3 = some ⟨0, 3⟩ := by decide +kernel
  refine ⟨hperm, by decide, by decide, hleaves.trans (by decide), hentries, hprevious, ?_, hsize,
    hcolumns, ?_⟩
  · exact (hlinks 3).1.trans hprevious
  · exact (hindent 3).trans hcolumns

end LeafChain

end NotebookLayout
