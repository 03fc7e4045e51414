import NotebookLayout.Proofs.Leaf.Ends
import NotebookLayout.Proofs.Leaf.Lifetime
import NotebookLayout.Proofs.Leaf.Survivors

/-!
# What a disposal leaves alone

Disposing of a leaf empties its slot and cuts the links that its neighbours have to it. This file
says that nothing else is touched:

- `get?_dispose`: what every slot holds after a leaf was disposed of;
- `leaf?_run_push_iff`: a leaf stays as it was pushed until it is disposed of itself;
- `run_dispose_frame`: so it is after any steps, and a number without a leaf changes nothing;
- `WellLinked.get?_dispose_push`, `FirstLive.first_dispose_push` and `last_dispose_push`: what a
  push changes in a chain is changed back by disposing of the new leaf;
- `run_dispose_push`: so nothing tells such a chain from the one before the push, but for the number
  that the next leaf gets.
-/

namespace NotebookLayout.LeafChain

/-- Every leaf takes a number. -/
theorem nextId_push (chain : LeafChain) (leaf : Leaf) :
    (chain.push leaf).nextId = chain.nextId + 1 := chain.size_slots_push leaf

/-- Disposing gives no number back. -/
theorem nextId_dispose (chain : LeafChain) (id : LeafId) :
    (chain.dispose id).2.nextId = chain.nextId := chain.size_slots_dispose id

/-- Disposing of a leaf that is there takes it out. -/
theorem dispose_of_get? {chain : LeafChain} {id : LeafId} {node : ChainNode}
    (h : chain.get? id = some node) : chain.dispose id = (some node, chain.remove id node h) := by
  rcases chain.dispose_cases id with ⟨other, hother, heq⟩ | ⟨hdead, -⟩
  · obtain rfl : node = other := Option.some.inj (h.symm.trans hother)
    exact heq
  · simp [h] at hdead

/-! ## One disposal -/

/-- Besides the slot of the leaf disposed of, only two links are changed: that forwards of the leaf
in front of it and that backwards of the leaf after it. -/
theorem get?_dispose (chain : LeafChain) (d id : LeafId) :
    (chain.dispose d).2.get? id =
      if id = d then none
      else (chain.get? id).map fun node =>
        { node with
          previous := if chain.next? d = some id then none else node.previous
          next := if chain.previous? d = some id then none else node.next } := by
  by_cases hid : id = d
  · -- There is no leaf left, whether there was one or not.
    have hleaf := chain.leaf?_dispose d id
    rw [if_pos hid, leaf?, Option.map_eq_none_iff] at hleaf
    rw [if_pos hid, hleaf]
  · rw [if_neg hid]
    rcases chain.dispose_cases d with ⟨taken, hget, heq⟩ | ⟨hdead, heq⟩
    · rw [heq, get?_remove, next?_of_get? hget, previous?_of_get? hget, if_neg hid]
      cases chain.get? id <;> dsimp only <;> split <;> split <;> rfl
    · have hnext : chain.next? d = none := by rw [next?, hdead]; rfl
      have hprevious : chain.previous? d = none := by rw [previous?, hdead]; rfl
      rw [heq, hnext, hprevious]
      simp

/-! ## The life of a leaf -/

/-- As long as the chain is not cleared, a number stands for the leaf that was pushed under it just
until that leaf is disposed of. -/
theorem leaf?_run_push_iff (chain : LeafChain) (leaf : Leaf) {after : List ChainStep}
    (hafter : .clear ∉ after) :
    ((chain.push leaf).run after).leaf? chain.nextId = some leaf ↔
      .dispose chain.nextId ∉ after := by
  have hnew : (chain.push leaf).leaf? chain.nextId = some leaf := by
    rw [leaf?_push, if_pos rfl]
  rw [leaf?_run_iff]
  constructor
  · rintro (⟨-, -, hspares⟩ | ⟨done, rest, rfl, hid, -⟩)
    · exact hspares
    · -- The number is not given out a second time.
      have hdone : .clear ∉ done := fun hmem => hafter (List.mem_append_left _ hmem)
      have hle := (chain.push leaf).nextId_le_run hdone
      rw [hid, nextId_push] at hle
      exact absurd hle (Nat.not_succ_le_self _)
  · exact fun hspares => Or.inl ⟨hnew, hafter, hspares⟩

/-! ## Taking back a push -/

/-- The next number has no leaf yet. -/
theorem get?_nextId (chain : LeafChain) : chain.get? chain.nextId = none :=
  LeafSlots.get?_eq_none_of_size_le (Nat.le_refl _)

/-- Disposing of the leaf pushed last leaves every other one as it was before the push: the end of
the chain gives up the link to the new leaf, and had none before. -/
theorem WellLinked.get?_dispose_push {chain : LeafChain} (h : chain.WellLinked) (leaf : Leaf)
    (id : LeafId) : ((chain.push leaf).dispose chain.nextId).2.get? id = chain.get? id := by
  have hpushed : (chain.push leaf).WellLinked := h.push leaf
  have hrestored : ((chain.push leaf).dispose chain.nextId).2.WellLinked :=
    hpushed.apply (.dispose chain.nextId)
  -- A chain is known by its leaves and its links to the next leaf; the links back follow.
  refine hrestored.get?_congr h ?leaves ?links id
  case leaves =>
    intro i
    rw [leaf?_dispose, leaf?_push]
    split
    next hi => rw [hi, leaf?, get?_nextId, Option.map_none]
    next => rfl
  case links =>
    intro i
    apply Option.ext
    intro j
    rw [hpushed.next?_dispose_iff, next?_push chain leaf i h.isLive_last]
    constructor
    · rintro ⟨hij, -, hj⟩
      split at hij
      next => exact absurd (Option.some.inj hij).symm hj
      next => exact hij
    · intro hij
      have hlast : chain.last ≠ some i := fun hlast => by simp [h.next_last i hlast] at hij
      have hi : chain.IsLive i := isLive_of_next? hij
      have hj : chain.IsLive j := isLive_of_previous? (h.previous_of_next i j hij)
      rw [if_neg hlast]
      exact ⟨hij, hi.ne_nextId, hj.ne_nextId⟩

/-- The slot that is added and emptied again is not seen. -/
theorem WellLinked.entries_dispose_push {chain : LeafChain} (h : chain.WellLinked) (leaf : Leaf) :
    ((chain.push leaf).dispose chain.nextId).2.entries = chain.entries := by
  rw [entries, size_slots_dispose, size_slots_push, List.range_succ, List.filterMap_append]
  simp only [h.get?_dispose_push leaf, List.filterMap_cons, get?_nextId, Option.map_none,
    List.filterMap_nil, List.append_nil]
  rfl

/-- If the chain began nowhere before the push, it began at the new leaf after it. -/
theorem FirstLive.first_dispose_push {chain : LeafChain} (h : chain.FirstLive) (leaf : Leaf) :
    ((chain.push leaf).dispose chain.nextId).2.first = chain.first := by
  rw [dispose_of_get? (get?_push_nextId chain leaf)]
  change (if chain.first.or (some chain.nextId) = some chain.nextId then none
    else chain.first.or (some chain.nextId)) = chain.first
  cases hfirst : chain.first with
  | none => exact if_pos rfl
  | some f =>
    have hne : f ≠ chain.nextId := (h f hfirst).ne_nextId
    simp [hne]

/-- A leaf that comes and goes leaves the end where it was. -/
theorem last_dispose_push (chain : LeafChain) (leaf : Leaf) :
    ((chain.push leaf).dispose chain.nextId).2.last = chain.last := by
  rw [dispose_of_get? (get?_push_nextId chain leaf)]
  exact if_pos rfl

/-- It leaves as many leaves as there were. -/
theorem size_dispose_push (chain : LeafChain) (leaf : Leaf) :
    ((chain.push leaf).dispose chain.nextId).2.size = chain.size := by
  rw [dispose_of_get? (get?_push_nextId chain leaf)]
  rfl

/-! ## Runs -/

/-- After any steps, a leaf that is pushed then stays as it is while leaves are pushed and others
are disposed of, and no longer than until it is disposed of itself. Disposing of a number gives the
leaf with its links just if there is one, and leaves the chain as it is otherwise. It empties that
slot and changes no other one but for the two links that lead to the leaf, forwards from the leaf in
front of it and backwards from the one after it. -/
theorem run_dispose_frame (steps : List ChainStep) :
    let chain := LeafChain.empty.run steps
    (∀ leaf after, .clear ∉ after →
      (((chain.push leaf).run after).leaf? chain.nextId = some leaf ↔
        .dispose chain.nextId ∉ after)) ∧
      ∀ d,
        let removed := (chain.dispose d).1
        let disposed := (chain.dispose d).2
        (removed = chain.get? d ∧ (removed.isSome ↔ chain.IsLive d)) ∧
          (removed = none → disposed = chain) ∧
          (disposed.slots.size = chain.slots.size ∧
            ∀ id, disposed.get? id =
              if id = d then none
              else (chain.get? id).map fun node =>
                { node with
                  previous := if chain.next? d = some id then none else node.previous
                  next := if chain.previous? d = some id then none else node.next }) ∧
          -- The links that are cut are those that lead to the leaf.
          ∀ id, (chain.next? d = some id ↔ chain.previous? id = some d) ∧
            (chain.previous? d = some id ↔ chain.next? id = some d) := by
  intro chain
  have h : chain.WellLinked := run_wellLinked steps
  refine ⟨fun leaf after => chain.leaf?_run_push_iff leaf, ?_⟩
  intro d removed disposed
  have hremoved : removed = chain.get? d := chain.dispose_fst d
  refine ⟨⟨hremoved, ?live⟩, ?unchanged, ⟨chain.size_slots_dispose d, chain.get?_dispose d⟩, ?links⟩
  case live => rw [hremoved, IsLive]
  case unchanged =>
    intro hnone
    exact congrArg Prod.snd (dispose_of_get?_eq_none (hremoved.symm.trans hnone))
  case links => exact fun id => ⟨h.previous?_eq_some_iff.symm, h.previous?_eq_some_iff⟩

/-- The first of four leaves is disposed of, and a fifth one is pushed. It stays as it is while its
neighbour and a number without a leaf are disposed of and another leaf is pushed. Disposing of the
third leaf cuts a link of each of its neighbours, and disposing of the first one again cuts none. -/
theorem run_dispose_frame_cut_link :
    let leaf (start stop : Nat) : Leaf :=
      ⟨.word, ⟨start, stop⟩, .empty start, false, stop - start, false⟩
    let chain := LeafChain.empty.run
      [.push (leaf 0 1), .push (leaf 2 3), .push (leaf 4 5), .push (leaf 6 7), .dispose 0]
    let after : List ChainStep := [.dispose 3, .push (leaf 10 12), .dispose 9]
    (.clear ∉ after ∧ .dispose chain.nextId ∉ after ∧
        ((chain.push (leaf 8 9)).run after).leaf? 4 = some (leaf 8 9)) ∧
      ((chain.dispose 2).2.get? 1 = some ⟨leaf 2 3, none, none⟩ ∧
        (chain.dispose 2).2.get? 3 = some ⟨leaf 6 7, none, none⟩) ∧
      (chain.dispose 0).1 = none ∧ (chain.dispose 0).2 = chain := by
  intro leaf chain after
  obtain ⟨hlife, hframe⟩ := run_dispose_frame
    [.push (leaf 0 1), .push (leaf 2 3), .push (leaf 4 5), .push (leaf 6 7), .dispose 0]
  have hid : chain.nextId = 4 := by decide
  have hclear : .clear ∉ after := by simp [after]
  have hspared : .dispose chain.nextId ∉ after := by simp [after, hid]
  have hkept := (hlife (leaf 8 9) after hclear).2 hspared
  rw [hid] at hkept
  have hnone : (chain.dispose 0).1 = none := by decide
  obtain ⟨-, -, ⟨-, hslots⟩, -⟩ := hframe 2
  refine ⟨⟨hclear, hspared, hkept⟩, ⟨?_, ?_⟩, hnone, (hframe 0).2.1 hnone⟩
  · exact (hslots 1).trans (by decide)
  · exact (hslots 3).trans (by decide)

/-- After any steps, a leaf that is pushed and disposed of comes back as it was pushed, linked to
the end of the chain and to no leaf after it. The chain is then as before, in its ends, its leaves
with their links, where they are, what is found in it and what its check finds; only the number is
used up. -/
theorem run_dispose_push (steps : List ChainStep) (leaf : Leaf) :
    let chain := LeafChain.empty.run steps
    let removed := ((chain.push leaf).dispose chain.nextId).1
    let restored := ((chain.push leaf).dispose chain.nextId).2
    removed = some ⟨leaf, chain.last, none⟩ ∧
      (restored.first = chain.first ∧ restored.last = chain.last ∧ restored.size = chain.size) ∧
      restored.entries = chain.entries ∧
      (∀ id, restored.previous? id = chain.previous? id ∧ restored.next? id = chain.next? id ∧
        restored.indent? id = chain.indent? id) ∧
      ((∀ p, restored.findId? p = chain.findId? p) ∧ restored.fault? = chain.fault?) ∧
      restored.nextId = chain.nextId + 1 := by
  intro chain removed restored
  have h : chain.WellLinked := run_wellLinked steps
  have hget : ∀ id, restored.get? id = chain.get? id := h.get?_dispose_push leaf
  have hentries : restored.entries = chain.entries := h.entries_dispose_push leaf
  refine ⟨?removed, ⟨?first, chain.last_dispose_push leaf, chain.size_dispose_push leaf⟩, hentries,
    ?links, ⟨?found, ?fault⟩, ?number⟩
  case removed => exact (dispose_fst _ _).trans (get?_push_nextId chain leaf)
  case first => exact (run_firstLive steps).first_dispose_push leaf
  case links =>
    intro id
    refine ⟨?_, ?_, indent?_congr hget id⟩
    · rw [previous?, previous?, hget]
    · rw [next?, next?, hget]
  case found =>
    intro p
    rw [findId?, findId?, hentries]
  case fault =>
    simp only [fault?, hentries, linkFault?, hget]
  case number => exact (nextId_dispose _ _).trans (chain.nextId_push leaf)

/-- After the second of three leaves, the first one is disposed of, so that the chain begins nowhere
though a leaf is left. It begins at the next leaf pushed, and nowhere again without that one. -/
example :
    let leaf (start stop : Nat) : Leaf :=
      ⟨.word, ⟨start, stop⟩, .empty start, false, stop - start, false⟩
    let chain := LeafChain.empty.run
      [.push (leaf 0 1), .push (leaf 2 3), .push (leaf 4 5), .dispose 1, .dispose 0]
    let pushed := chain.push (leaf 6 7)
    (chain.first = none ∧ chain.ids = [2]) ∧ (pushed.first = some 3 ∧ pushed.next? 2 = some 3) ∧
      (pushed.dispose 3).2.first = none ∧ (pushed.dispose 3).2.entries = chain.entries := by
  decide

end NotebookLayout.LeafChain
