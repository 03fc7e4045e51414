import NotebookLayout.Leaf.Check
import NotebookLayout.Proofs.Leaf.Run

/-!
# Links of a chain

What holds of the links of a chain after any run of its steps:

- `WellLinked.push` and `WellLinked.remove`: a step keeps links mutual, leading forwards and
  skipping no leaf;
- `run_wellLinked`: hence so does every run from the empty chain;
- `run_mutualLinks`: what this means for the order of the leaves and for the check of a chain.
-/

namespace NotebookLayout.LeafChain

/-! ## Well-linked chains -/

/-- Links are mutual, lead forwards and skip no leaf; the end of a chain is its final leaf, and no
link leads on from there; the size is the number of leaves. -/
structure WellLinked (chain : LeafChain) : Prop where
  lt_of_next : ∀ i j, chain.next? i = some j → i < j
  previous_of_next : ∀ i j, chain.next? i = some j → chain.previous? j = some i
  next_of_previous : ∀ i j, chain.previous? j = some i → chain.next? i = some j
  between : ∀ i j k, chain.next? i = some j → i < k → k < j → ¬chain.IsLive k
  isLive_last : ∀ l, chain.last = some l → chain.IsLive l
  next_last : ∀ l, chain.last = some l → chain.next? l = none
  final_last : ∀ l k, chain.last = some l → l < k → ¬chain.IsLive k
  size_eq : chain.size = chain.ids.length

/-- Only a leaf is linked to a leaf after it. -/
theorem isLive_of_next? {chain : LeafChain} {i j : LeafId} (h : chain.next? i = some j) :
    chain.IsLive i := by
  obtain ⟨node, hnode, -⟩ := Option.bind_eq_some_iff.1 h
  exact isLive_iff.2 ⟨node, hnode⟩

/-- Only a leaf is linked to a leaf in front of it. -/
theorem isLive_of_previous? {chain : LeafChain} {i j : LeafId} (h : chain.previous? j = some i) :
    chain.IsLive j := by
  obtain ⟨node, hnode, -⟩ := Option.bind_eq_some_iff.1 h
  exact isLive_iff.2 ⟨node, hnode⟩

/-- A chain without leaves has no links. -/
theorem wellLinked_empty : WellLinked .empty := by
  have hget : ∀ i, LeafChain.empty.get? i = none := fun i => by simp [empty, get?, LeafSlots.get?]
  have hnext : ∀ i, LeafChain.empty.next? i = none := fun i => by rw [next?, hget]; rfl
  have hprev : ∀ i, LeafChain.empty.previous? i = none := fun i => by rw [previous?, hget]; rfl
  have hlast : LeafChain.empty.last = none := rfl
  constructor
  case size_eq => rfl
  all_goals simp [hnext, hprev, hlast]

/-- A leaf more is linked both ways with the end of the chain. -/
theorem WellLinked.push {chain : LeafChain} (h : chain.WellLinked) (leaf : Leaf) :
    (chain.push leaf).WellLinked := by
  have hnext := fun i => next?_push chain leaf i h.isLive_last
  have hprev := fun i => previous?_push chain leaf i
  -- The slot of the new leaf was not in use, so it had no link.
  have hnew : chain.next? chain.nextId = none := by
    by_contra hsome
    obtain ⟨j, hj⟩ := Option.ne_none_iff_exists'.1 hsome
    exact (isLive_of_next? hj).ne_nextId rfl
  -- The new number is larger than that of every leaf.
  have hlt : ∀ {i}, chain.IsLive i → i < chain.nextId := IsLive.lt_size
  constructor
  case lt_of_next =>
    intro i j hij
    rw [hnext] at hij
    split at hij
    next hlast => cases hij; exact hlt (h.isLive_last i hlast)
    next => exact h.lt_of_next i j hij
  case previous_of_next =>
    intro i j hij
    rw [hnext] at hij
    rw [hprev]
    split at hij
    next hlast => cases hij; rw [if_pos rfl, hlast]
    next =>
      have hback := h.previous_of_next i j hij
      rw [if_neg (isLive_of_previous? hback).ne_nextId, hback]
  case next_of_previous =>
    intro i j hij
    rw [hprev] at hij
    rw [hnext]
    split at hij
    next hj => rw [if_pos hij, hj]
    next =>
      -- Nothing comes after the old end, so `i` is not the old end.
      have hon := h.next_of_previous i j hij
      have hne : chain.last ≠ some i := fun hlast => by simp [h.next_last i hlast] at hon
      rw [if_neg hne, hon]
  case between =>
    intro i j k hij hik hkj
    rw [hnext] at hij
    rw [isLive_push]
    rintro (rfl | hk)
    · -- The new leaf lies between no two leaves, for it has the largest number.
      split at hij
      next => cases hij; exact Nat.lt_irrefl _ hkj
      next =>
        have hj := isLive_of_previous? (h.previous_of_next i j hij)
        exact Nat.lt_asymm hkj (hlt hj)
    · split at hij
      next hlast => exact h.final_last i k hlast hik hk
      next => exact h.between i j k hij hik hkj hk
  case isLive_last =>
    intro l hl
    cases hl
    exact (isLive_push ..).2 (Or.inl rfl)
  case next_last =>
    intro l hl
    cases hl
    have hne : chain.last ≠ some chain.nextId := fun hlast =>
      (h.isLive_last _ hlast).ne_nextId rfl
    rw [hnext, if_neg hne, hnew]
  case final_last =>
    intro l k hl hlk
    cases hl
    rw [isLive_push]
    rintro (rfl | hk)
    · exact Nat.lt_irrefl _ hlk
    · exact Nat.lt_asymm hlk (hlt hk)
  case size_eq =>
    rw [ids_push, List.length_append, ← h.size_eq]
    rfl

section Remove

variable {chain : LeafChain} {id : LeafId} {node : ChainNode} (h : chain.WellLinked)
  (hget : chain.get? id = some node)

include h

/-- Taking out a leaf keeps just the links between other leaves. -/
theorem WellLinked.next?_remove_iff {i j : LeafId} :
    (chain.remove id node hget).next? i = some j ↔ chain.next? i = some j ∧ i ≠ id ∧ j ≠ id := by
  have hprev := previous?_of_get? hget
  rw [next?_remove]
  constructor
  · intro hij
    split at hij
    next => simp at hij
    next hcut =>
      obtain ⟨hi, hp⟩ := not_or.1 hcut
      refine ⟨hij, hi, ?_⟩
      rintro rfl
      exact hp (hprev ▸ h.previous_of_next i j hij)
  · rintro ⟨hij, hi, hj⟩
    have hp : node.previous ≠ some i := fun hp =>
      hj (Option.some.inj (hij.symm.trans (h.next_of_previous i id (hprev.trans hp))))
    rw [if_neg (not_or.2 ⟨hi, hp⟩), hij]

/-- The links back that stay are those between two other leaves. -/
theorem WellLinked.previous?_remove_iff {i j : LeafId} :
    (chain.remove id node hget).previous? j = some i ↔
      chain.previous? j = some i ∧ i ≠ id ∧ j ≠ id := by
  have hnext := next?_of_get? hget
  rw [previous?_remove]
  constructor
  · intro hij
    split at hij
    next => simp at hij
    next hcut =>
      obtain ⟨hj, hn⟩ := not_or.1 hcut
      refine ⟨hij, ?_, hj⟩
      rintro rfl
      exact hn (hnext ▸ h.next_of_previous i j hij)
  · rintro ⟨hij, hi, hj⟩
    have hn : node.next ≠ some j := fun hn =>
      hi (Option.some.inj (hij.symm.trans (h.previous_of_next id j (hnext.trans hn))))
    rw [if_neg (not_or.2 ⟨hj, hn⟩), hij]

/-- The end of the chain after taking out a leaf is the leaf in front of it if the leaf was the end,
and stays where it is otherwise. -/
theorem WellLinked.last_remove_cases {l : LeafId}
    (hl : (chain.remove id node hget).last = some l) :
    (chain.last = some id ∧ chain.next? l = some id ∧ node.previous = some l) ∨
      chain.last = some l ∧ l ≠ id := by
  have hprev := previous?_of_get? hget
  change (if chain.last = some id then node.previous else chain.last) = some l at hl
  split at hl
  next hlast => exact Or.inl ⟨hlast, h.next_of_previous l id (hprev.trans hl), hl⟩
  next hlast => exact Or.inr ⟨hl, fun hlid => hlast (hlid ▸ hl)⟩

/-- A leaf less takes its links with it, and no others. -/
theorem WellLinked.remove : (chain.remove id node hget).WellLinked := by
  have hlive := isLive_remove chain id node hget
  constructor
  case lt_of_next =>
    intro i j hij
    exact h.lt_of_next i j ((h.next?_remove_iff hget).1 hij).1
  case previous_of_next =>
    intro i j hij
    obtain ⟨hij, hne⟩ := (h.next?_remove_iff hget).1 hij
    exact (h.previous?_remove_iff hget).2 ⟨h.previous_of_next i j hij, hne⟩
  case next_of_previous =>
    intro i j hij
    obtain ⟨hij, hne⟩ := (h.previous?_remove_iff hget).1 hij
    exact (h.next?_remove_iff hget).2 ⟨h.next_of_previous i j hij, hne⟩
  case between =>
    intro i j k hij hik hkj hk
    exact h.between i j k ((h.next?_remove_iff hget).1 hij).1 hik hkj ((hlive k).1 hk).2
  case isLive_last =>
    intro l hl
    rw [hlive]
    rcases h.last_remove_cases hget hl with ⟨-, hon, -⟩ | ⟨hlast, hne⟩
    · exact ⟨Nat.ne_of_lt (h.lt_of_next l id hon), isLive_of_next? hon⟩
    · exact ⟨hne, h.isLive_last l hlast⟩
  case next_last =>
    intro l hl
    rw [next?_remove]
    rcases h.last_remove_cases hget hl with ⟨-, -, hp⟩ | ⟨hlast, -⟩
    · -- The new end lost its link to the old one.
      rw [if_pos (Or.inr hp)]
    · rw [h.next_last l hlast, ite_self]
  case final_last =>
    intro l k hl hlk hk
    obtain ⟨hkid, hk⟩ := (hlive k).1 hk
    -- If the end was taken out, a leaf beyond `l` was between the two or beyond the old end.
    rcases h.last_remove_cases hget hl with ⟨hlast, hon, -⟩ | ⟨hlast, -⟩
    · rcases Nat.lt_or_gt_of_ne hkid with hlt | hgt
      · exact h.between l id k hon hlk hlt hk
      · exact h.final_last id k hlast hgt hk
    · exact h.final_last l k hlast hlk hk
  case size_eq =>
    have hmem : id ∈ chain.ids := mem_ids.2 (isLive_iff.2 ⟨node, hget⟩)
    rw [ids_remove, List.length_erase_of_mem hmem, ← h.size_eq]
    rfl

end Remove

/-- No step breaks a link on one side only. -/
theorem WellLinked.apply {chain : LeafChain} (h : chain.WellLinked) (s : ChainStep) :
    (chain.apply s).WellLinked := by
  cases s with
  | push leaf => exact h.push leaf
  | dispose id =>
    -- A number without a leaf changes nothing.
    change (chain.dispose id).2.WellLinked
    rcases chain.dispose_cases id with ⟨node, hget, heq⟩ | ⟨-, heq⟩
    · rw [heq]
      exact h.remove hget
    · rw [heq]
      exact h
  | clear => exact wellLinked_empty

/-- Every run from the empty chain keeps the chain well linked. -/
theorem run_wellLinked (steps : List ChainStep) : (LeafChain.empty.run steps).WellLinked :=
  run_of_apply (fun _ s h => h.apply s) wellLinked_empty steps

/-! ## The check of a chain -/

/-- The check names a fault only if some leaf has it, in its link or in its gap. -/
theorem exists_of_fault?_eq_some {chain : LeafChain} {fault : ChainFault}
    (h : chain.fault? = some fault) :
    ∃ id node, chain.get? id = some node ∧
      (chain.linkFault? id node = some fault ∨ gapFault? id node = some fault) := by
  obtain ⟨⟨id, node⟩, hmem, hfault⟩ := List.exists_of_findSome?_eq_some h
  refine ⟨id, node, mem_entries.1 hmem, ?_⟩
  rcases Option.or_eq_some_iff.1 hfault with hlink | ⟨-, hgap⟩
  · exact Or.inl hlink
  · exact Or.inr hgap

/-- In a well-linked chain, the only fault of a link is that its leaves are out of order. -/
theorem WellLinked.linkFault?_cases {chain : LeafChain} (h : chain.WellLinked) {id : LeafId}
    {node : ChainNode} {fault : ChainFault} (hget : chain.get? id = some node)
    (hfault : chain.linkFault? id node = some fault) :
    ∃ next after, chain.next? id = some next ∧ chain.get? next = some after ∧
      after.leaf.span.start < node.leaf.span.stop ∧
      fault = .disorder node.leaf.span after.leaf.span := by
  unfold linkFault? at hfault
  split at hfault
  next => simp at hfault
  next next hnode =>
    -- The leaf after it is there and links back, so neither of the first two faults is found.
    have hnext : chain.next? id = some next := (next?_of_get? hget).trans hnode
    have hback := h.previous_of_next id next hnext
    obtain ⟨after, hafter, hprev⟩ := Option.bind_eq_some_iff.1 hback
    rw [hafter] at hfault
    dsimp only at hfault
    rw [if_neg (not_not_intro hprev)] at hfault
    split at hfault
    next hlt => exact ⟨next, after, hnext, hafter, hlt, (Option.some.inj hfault).symm⟩
    next => simp at hfault

/-! ## Leaves in order -/

/-- Every leaf that the steps push starts no earlier than its gap ends, ends no earlier than it
starts, and starts no earlier than any leaf ends that was `pushed` before it since the chain was
last cleared. -/
def InOrder (pushed : List Leaf) : List ChainStep → Prop
  | [] => True
  | .push leaf :: steps =>
    (leaf.gap.span.stop ≤ leaf.span.start ∧ leaf.span.start ≤ leaf.span.stop ∧
      ∀ earlier ∈ pushed, earlier.span.stop ≤ leaf.span.start) ∧ InOrder (leaf :: pushed) steps
  | .dispose _ :: steps => InOrder pushed steps
  | .clear :: steps => InOrder [] steps

/-- The leaves are among those pushed, follow each other, and their gaps end before they start. -/
structure Sorted (pushed : List Leaf) (chain : LeafChain) : Prop where
  mem_pushed : ∀ i a, chain.leaf? i = some a → a ∈ pushed
  gap_le : ∀ i a, chain.leaf? i = some a → a.gap.span.stop ≤ a.span.start
  stop_le : ∀ i j a b, chain.leaf? i = some a → chain.leaf? j = some b → i < j →
    a.span.stop ≤ b.span.start

/-- A chain without leaves is in order. -/
theorem sorted_empty : Sorted [] .empty := by
  have hleaf : ∀ i, LeafChain.empty.leaf? i = none := fun i => by
    simp [leaf?, empty, get?, LeafSlots.get?]
  constructor <;> simp [hleaf]

/-- A leaf behind all others, with a gap that ends in front of it, keeps the order. -/
theorem Sorted.push {pushed : List Leaf} {chain : LeafChain} (h : Sorted pushed chain)
    {leaf : Leaf} (hgap : leaf.gap.span.stop ≤ leaf.span.start)
    (hafter : ∀ earlier ∈ pushed, earlier.span.stop ≤ leaf.span.start) :
    Sorted (leaf :: pushed) (chain.push leaf) := by
  have hleaf := fun i => leaf?_push chain leaf i
  constructor
  case mem_pushed =>
    intro i a ha
    rw [hleaf] at ha
    split at ha
    next => cases ha; exact List.mem_cons_self
    next => exact List.mem_cons_of_mem _ (h.mem_pushed i a ha)
  case gap_le =>
    intro i a ha
    rw [hleaf] at ha
    split at ha
    next => cases ha; exact hgap
    next => exact h.gap_le i a ha
  case stop_le =>
    intro i j a b ha hb hij
    rw [hleaf] at ha hb
    have hi : i ≠ chain.nextId := by
      rintro rfl
      -- A leaf after the new one would have a number that is not in use.
      rw [if_neg (Nat.ne_of_gt hij)] at hb
      have hj : chain.IsLive j := isLive_of_leaf? hb
      exact Nat.lt_asymm hij hj.lt_size
    rw [if_neg hi] at ha
    split at hb
    next => cases hb; exact hafter a (h.mem_pushed i a ha)
    next => exact h.stop_le i j a b ha hb hij

/-- Disposing of leaves keeps the others sorted. -/
theorem Sorted.dispose {pushed : List Leaf} {chain : LeafChain} (h : Sorted pushed chain)
    (id : LeafId) : Sorted pushed (chain.dispose id).2 := by
  have hkept : ∀ {i a}, (chain.dispose id).2.leaf? i = some a → chain.leaf? i = some a := by
    intro i a ha
    rw [leaf?_dispose] at ha
    split at ha
    next => simp at ha
    next => exact ha
  constructor
  case mem_pushed => exact fun i a ha => h.mem_pushed i a (hkept ha)
  case gap_le => exact fun i a ha => h.gap_le i a (hkept ha)
  case stop_le => exact fun i j a b ha hb => h.stop_le i j a b (hkept ha) (hkept hb)

/-- Leaves pushed in order are sorted after every run, whatever was disposed of. -/
theorem Sorted.run {pushed : List Leaf} {chain : LeafChain} (h : Sorted pushed chain)
    {steps : List ChainStep} (hsteps : InOrder pushed steps) :
    ∃ pushed', Sorted pushed' (chain.run steps) := by
  induction steps generalizing pushed chain with
  | nil => exact ⟨pushed, h⟩
  | cons s steps ih =>
    cases s with
    | push leaf =>
      obtain ⟨⟨hgap, -, hafter⟩, hrest⟩ := hsteps
      exact ih (h.push hgap hafter) hrest
    | dispose id =>
      exact ih (h.dispose id) hsteps
    | clear =>
      -- A cleared chain is sorted, whatever was pushed before.
      exact ih sorted_empty hsteps

/-- The check finds nothing wrong with a well-linked chain of sorted leaves. -/
theorem Sorted.fault?_eq_none {pushed : List Leaf} {chain : LeafChain} (h : Sorted pushed chain)
    (hlinked : chain.WellLinked) : chain.fault? = none := by
  by_contra hne
  obtain ⟨fault, hfault⟩ := Option.ne_none_iff_exists'.1 hne
  obtain ⟨id, node, hget, hlink | hgap⟩ := exists_of_fault?_eq_some hfault
  · obtain ⟨next, after, hnext, hafter, hlt, -⟩ := hlinked.linkFault?_cases hget hlink
    have hle := h.stop_le id next node.leaf after.leaf (leaf?_of_get? hget) (leaf?_of_get? hafter)
      (hlinked.lt_of_next id next hnext)
    exact Nat.not_lt_of_le hle hlt
  · have hle := h.gap_le id node.leaf (leaf?_of_get? hget)
    unfold gapFault? at hgap
    rw [if_neg (Nat.not_lt_of_le hle)] at hgap
    simp at hgap

/-- After any steps from the empty chain, the size is the number of leaves, links are mutual and
join leaves that follow each other, and the end of the chain is the final leaf and has none after
it. So the check finds no link that leads to no leaf or goes one way, and nothing at all if the
leaves were pushed in the order of their text. -/
theorem run_mutualLinks (steps : List ChainStep) :
    let chain := LeafChain.empty.run steps
    chain.size = chain.entries.length ∧
      -- A link forwards leads from a leaf to the very next one, which links back.
      (∀ i j, chain.next? i = some j →
        i < j ∧ chain.IsLive i ∧ chain.IsLive j ∧ chain.previous? j = some i ∧
          [i, j] <:+: chain.ids) ∧
      (∀ i j, chain.previous? j = some i → chain.next? i = some j) ∧
      -- The end of the chain is the final leaf.
      (∀ l, chain.last = some l →
        chain.IsLive l ∧ chain.next? l = none ∧ chain.ids.getLast? = some l) ∧
      -- So the check finds at most a disorder, and not even that among leaves pushed in order.
      (∀ i j, chain.fault? ≠ some (.deadLink i j) ∧ chain.fault? ≠ some (.oneWayLink i j)) ∧
      (InOrder [] steps → chain.fault? = none) := by
  intro chain
  have h : chain.WellLinked := run_wellLinked steps
  refine ⟨?size, ?next, h.next_of_previous, ?last, ?links, ?order⟩
  case size => rw [h.size_eq, length_ids]
  case next =>
    intro i j hij
    have hback := h.previous_of_next i j hij
    refine ⟨h.lt_of_next i j hij, isLive_of_next? hij, isLive_of_previous? hback, hback, ?_⟩
    exact pair_isInfix_ids (isLive_of_next? hij) (isLive_of_previous? hback)
      (h.lt_of_next i j hij) fun k => h.between i j k hij
  case last =>
    intro l hl
    refine ⟨h.isLive_last l hl, h.next_last l hl, ?_⟩
    exact getLast?_ids (h.isLive_last l hl) fun k => h.final_last l k hl
  case links =>
    intro i j
    -- Any fault found is a disorder of two leaves or of a leaf and its gap.
    constructor <;> intro hfault
    all_goals
      obtain ⟨id, node, hget, hlink | hgap⟩ := exists_of_fault?_eq_some hfault
      · obtain ⟨next, after, -, -, -, heq⟩ := h.linkFault?_cases hget hlink
        simp at heq
      · unfold gapFault? at hgap
        split at hgap <;> simp at hgap
  case order =>
    intro hsteps
    obtain ⟨pushed, hsorted⟩ := sorted_empty.run hsteps
    exact hsorted.fault?_eq_none h

/-- The second of three leaves is disposed of, then one that there never was, and a fourth is
pushed. -/
theorem run_mutualLinks_middle_disposed :
    let leaf (start stop : Nat) : Leaf :=
      ⟨.word, ⟨start, stop⟩, .empty start, false, stop - start, false⟩
    let steps : List ChainStep :=
      [.push (leaf 0 1), .push (leaf 2 3), .push (leaf 4 5), .dispose 1, .dispose 7,
        .push (leaf 5 8)]
    let chain := LeafChain.empty.run steps
    InOrder [] steps ∧ chain.next? 2 = some 3 ∧ chain.previous? 3 = some 2 ∧
      chain.last = some 3 ∧ chain.ids.getLast? = some 3 ∧ chain.fault? = none := by
  intro leaf steps chain
  have hsteps : InOrder [] steps := by simp [steps, leaf, InOrder, Gap.empty, Span.point]
  have hnext : chain.next? 2 = some 3 := by decide
  have hlast : chain.last = some 3 := by decide
  obtain ⟨-, hnexts, -, hlasts, -, hcheck⟩ := run_mutualLinks steps
  exact ⟨hsteps, hnext, (hnexts 2 3 hnext).2.2.2.1, hlast, (hlasts 3 hlast).2.2, hcheck hsteps⟩

end NotebookLayout.LeafChain
