import NotebookLayout.Leaf.Position
import NotebookLayout.Proofs.Leaf.Run

/-!
# How long a number stands for a leaf

A number stands for a leaf from the step that pushes the leaf to the step that removes it, which
disposes of that leaf alone or clears the chain. This file tells what a number stands for after any
steps:

- `leaf?_apply_iff`: the leaf with a number after one step;
- `leaf?_run_iff`: after a run, it is the last leaf pushed under the number, if no step since then
  has removed it;
- `run_removed`: the number of a leaf that was removed stands for no leaf until the chain is
  cleared, and after that for the leaf that is pushed under it again;
- `run_removed_cleared`: so clearing the chain does bring numbers back.
-/

namespace NotebookLayout.LeafChain

/-- None of the steps removes the leaf with the number. -/
def Spares (id : LeafId) (steps : List ChainStep) : Prop :=
  .clear ∉ steps ∧ .dispose id ∉ steps

/-- Steps spare a leaf if each of them does. -/
theorem spares_cons {id : LeafId} {s : ChainStep} {steps : List ChainStep} :
    Spares id (s :: steps) ↔ (s ≠ .clear ∧ s ≠ .dispose id) ∧ Spares id steps := by
  simp only [Spares, List.mem_cons, not_or, ne_eq, eq_comm (a := s)]
  exact and_and_and_comm

/-! ## One step -/

/-- Numbers are given out in order as long as the chain is not cleared. -/
theorem nextId_le_apply (chain : LeafChain) {s : ChainStep} (hs : s ≠ .clear) :
    chain.nextId ≤ (chain.apply s).nextId := by
  cases s with
  | push leaf =>
    have hsize := chain.size_slots_push leaf
    exact Nat.le_of_lt (Nat.lt_of_lt_of_eq (Nat.lt_succ_self _) hsize.symm)
  | dispose id => exact Nat.le_of_eq (chain.size_slots_dispose id).symm
  | clear => exact absurd rfl hs

/-- After a step, a number stands for the leaf that it stood for, unless the step removes that leaf,
or for the leaf that the step pushes. -/
theorem leaf?_apply_iff (chain : LeafChain) (s : ChainStep) (id : LeafId) (leaf : Leaf) :
    (chain.apply s).leaf? id = some leaf ↔
      (chain.leaf? id = some leaf ∧ s ≠ .clear ∧ s ≠ .dispose id) ∨
        s = .push leaf ∧ chain.nextId = id := by
  cases s with
  | push pushed =>
    change (chain.push pushed).leaf? id = some leaf ↔ _
    rw [leaf?_push]
    by_cases hid : id = chain.nextId
    · -- The number is new, so that it stood for no leaf before.
      have hfresh : chain.leaf? id ≠ some leaf := fun h => (isLive_of_leaf? h).ne_nextId hid
      simp [hid, hid ▸ hfresh]
    · simp [hid, Ne.symm hid]
  | dispose target =>
    change (chain.dispose target).2.leaf? id = some leaf ↔ _
    rw [leaf?_dispose]
    by_cases hid : id = target
    · simp [hid]
    · simp [hid, Ne.symm hid]
  | clear => simp [apply, leaf?, empty, get?, LeafSlots.get?]

/-! ## Runs -/

/-- Unless the chain is cleared, numbers only grow. -/
theorem nextId_le_run (chain : LeafChain) {steps : List ChainStep} (h : .clear ∉ steps) :
    chain.nextId ≤ (chain.run steps).nextId := by
  induction steps generalizing chain with
  | nil => exact Nat.le_refl _
  | cons s steps ih =>
    obtain ⟨hs, hsteps⟩ := not_or.1 (mt List.mem_cons.2 h)
    exact Nat.le_trans (chain.nextId_le_apply (Ne.symm hs)) (ih _ hsteps)

/-- After a run, a number stands for the leaf that it stood for at the start, or for one that was
pushed under it on the way, if no step after that removes the leaf. -/
theorem leaf?_run_iff (chain : LeafChain) (steps : List ChainStep) (id : LeafId) (leaf : Leaf) :
    (chain.run steps).leaf? id = some leaf ↔
      (chain.leaf? id = some leaf ∧ Spares id steps) ∨
        ∃ done rest, steps = done ++ .push leaf :: rest ∧ (chain.run done).nextId = id ∧
          Spares id rest := by
  induction steps generalizing chain with
  | nil => simp [Spares]
  | cons s steps ih =>
    rw [run_cons, ih, leaf?_apply_iff]
    constructor
    · rintro (⟨⟨hleaf, hs⟩ | ⟨rfl, hid⟩, hspares⟩ | ⟨done, rest, rfl, hid, hspares⟩)
      · exact Or.inl ⟨hleaf, spares_cons.2 ⟨hs, hspares⟩⟩
      · exact Or.inr ⟨[], steps, rfl, hid, hspares⟩
      · exact Or.inr ⟨s :: done, rest, rfl, hid, hspares⟩
    · rintro (⟨hleaf, hspares⟩ | ⟨done, rest, heq, hid, hspares⟩)
      · obtain ⟨hs, hsteps⟩ := spares_cons.1 hspares
        exact Or.inl ⟨Or.inl ⟨hleaf, hs⟩, hsteps⟩
      · -- The leaf was pushed by the first step or by one after it.
        rcases List.cons_eq_append_iff.1 heq with ⟨rfl, hrest⟩ | ⟨done, rfl, hsteps⟩
        · obtain ⟨hpush, rfl⟩ := List.cons.inj hrest
          exact Or.inl ⟨Or.inr ⟨hpush.symm, hid⟩, hspares⟩
        · exact Or.inr ⟨done, rest, hsteps, hid, hspares⟩

/-- Once the step `s` has removed the leaf with a number, the number stands for a leaf again just if
the chain is cleared, by that step or later, and the leaf is then pushed under the number and not
removed. Without that, nothing is found under the number, whatever steps follow. -/
theorem run_removed (before : List ChainStep) (s : ChainStep) (after : List ChainStep)
    {id : LeafId} (hlive : (LeafChain.empty.run before).IsLive id)
    (hremoved : ¬(LeafChain.empty.run (before ++ [s])).IsLive id) :
    let chain := LeafChain.empty.run (before ++ s :: after)
    (∀ leaf, chain.leaf? id = some leaf ↔
      ∃ cleared rest, s :: after = cleared ++ .push leaf :: rest ∧ .clear ∈ cleared ∧
        (LeafChain.empty.run (before ++ cleared)).nextId = id ∧ Spares id rest) ∧
      (.clear ∉ s :: after →
        chain.get? id = none ∧ chain.indent? id = none ∧ chain.next? id = none ∧
          chain.previous? id = none) := by
  intro chain
  have hleaf : ∀ leaf, chain.leaf? id = some leaf ↔
      ∃ cleared rest, s :: after = cleared ++ .push leaf :: rest ∧ .clear ∈ cleared ∧
        (LeafChain.empty.run (before ++ cleared)).nextId = id ∧ Spares id rest := by
    intro leaf
    rw [show chain = (LeafChain.empty.run before).run (s :: after) from run_append ..,
      leaf?_run_iff]
    simp only [run_append]
    constructor
    · rintro (⟨hkept, hspares⟩ | ⟨done, rest, heq, hid, hspares⟩)
      · -- The step `s` did remove the leaf that was there.
        obtain ⟨hs, -⟩ := spares_cons.1 hspares
        have hstill := (leaf?_apply_iff _ s id leaf).2 (Or.inl ⟨hkept, hs⟩)
        rw [run_concat] at hremoved
        exact absurd (isLive_of_leaf? hstill) hremoved
      · refine ⟨done, rest, heq, ?_, hid, hspares⟩
        -- Without a clear, all numbers given out are larger than those in use before.
        by_contra hclear
        have hle := (LeafChain.empty.run before).nextId_le_run hclear
        have hlt : id < (LeafChain.empty.run before).nextId := hlive.lt_size
        exact Nat.not_lt_of_le (hid ▸ hle) hlt
    · rintro ⟨cleared, rest, heq, -, hid, hspares⟩
      exact Or.inr ⟨cleared, rest, heq, hid, hspares⟩
  refine ⟨hleaf, ?_⟩
  intro hclear
  have hget : chain.get? id = none := by
    by_contra hne
    obtain ⟨node, hnode⟩ := Option.ne_none_iff_exists'.1 hne
    obtain ⟨cleared, rest, heq, hmem, -⟩ := (hleaf node.leaf).1 (leaf?_of_get? hnode)
    exact hclear (heq ▸ List.mem_append_left _ hmem)
  simp [hget, indent?, next?, previous?]

/-- The second of three leaves is disposed of, and its number stays out of use while another leaf is
pushed and the chain's ends are disposed of. -/
theorem run_removed_middle_disposed :
    let leaf (start stop : Nat) : Leaf :=
      ⟨.word, ⟨start, stop⟩, .empty start, false, stop - start, false⟩
    let before : List ChainStep := [.push (leaf 0 1), .push (leaf 2 3), .push (leaf 4 5)]
    let after : List ChainStep := [.push (leaf 6 7), .dispose 3, .dispose 0, .push (leaf 8 9)]
    let chain := LeafChain.empty.run (before ++ .dispose 1 :: after)
    (LeafChain.empty.run before).IsLive 1 ∧
      ¬(LeafChain.empty.run (before ++ [.dispose 1])).IsLive 1 ∧
      chain.get? 1 = none ∧ chain.indent? 1 = none ∧ chain.next? 1 = none ∧
        chain.previous? 1 = none := by
  intro leaf before after chain
  have hlive : (LeafChain.empty.run before).IsLive 1 := by decide
  have hremoved : ¬(LeafChain.empty.run (before ++ [.dispose 1])).IsLive 1 := by decide
  have hclear : .clear ∉ ChainStep.dispose 1 :: after := by simp [after]
  exact ⟨hlive, hremoved, (run_removed before (.dispose 1) after hlive hremoved).2 hclear⟩

/-- Numbers do come back. A chain is cleared, by which its only leaf is removed, or after that leaf
was disposed of; the next leaf pushed is then found under the number of the removed one. -/
theorem run_removed_cleared :
    let leaf (start stop : Nat) : Leaf :=
      ⟨.word, ⟨start, stop⟩, .empty start, false, stop - start, false⟩
    let chain := LeafChain.empty.run [.push (leaf 0 1)]
    chain.leaf? 0 = some (leaf 0 1) ∧
      (chain.run [.clear]).get? 0 = none ∧
      (chain.run [.clear, .push (leaf 2 5)]).leaf? 0 = some (leaf 2 5) ∧
      (chain.run [.clear, .push (leaf 2 5)]).indent? 0 = some 0 ∧
      (chain.run [.dispose 0]).get? 0 = none ∧
      (chain.run [.dispose 0, .clear, .push (leaf 2 5)]).leaf? 0 = some (leaf 2 5) := by
  decide

end NotebookLayout.LeafChain
