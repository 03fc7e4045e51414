import Mathlib.Data.List.Chain
import Mathlib.Data.List.Induction
import NotebookLayout.Proofs.Leaf.Links

/-!
# Ends of a chain

When a leaf at an end of the chain is disposed of, the end moves along the leaf's link. That link
may have been cut before, by disposing of the leaf that it led to. This file says when the chain
still begins at its first leaf and ends at its last one:

- `EndsExact.push` and `EndsExact.remove_iff`: adding a leaf keeps the ends right, and disposing of
  one does just if it is not cut off;
- `run_ends`: hence the ends are right all along a run just if no step disposes of a leaf that is
  cut off, and the end of the chain is never wrong but can be missing;
- `run_ends_cut_off`: they do become wrong.
-/

namespace NotebookLayout.LeafChain

/-- The chain begins at its first leaf and ends at its last one. -/
structure EndsExact (chain : LeafChain) : Prop where
  first_eq : chain.first = chain.ids.head?
  last_eq : chain.last = chain.ids.getLast?

/-- The leaf is the first or the last of several and is not linked to the others. -/
def IsCutOff (chain : LeafChain) (id : LeafId) : Prop :=
  chain.ids ≠ [id] ∧
    (chain.ids.head? = some id ∧ chain.next? id = none ∨
      chain.ids.getLast? = some id ∧ chain.previous? id = none)

/-- A leaf that is cut off is there. -/
theorem IsCutOff.isLive {chain : LeafChain} {id : LeafId} (h : chain.IsCutOff id) :
    chain.IsLive id := by
  obtain ⟨-, ⟨hhead, -⟩ | ⟨hlast, -⟩⟩ := h
  · exact mem_ids.1 (List.mem_of_head? hhead)
  · exact mem_ids.1 (List.mem_of_getLast? hlast)

/-- The chain without leaves has no ends. -/
theorem endsExact_empty : EndsExact .empty := ⟨rfl, rfl⟩

/-- A leaf more is the new end, and the start if it is the only one. -/
theorem EndsExact.push {chain : LeafChain} (h : chain.EndsExact) (leaf : Leaf) :
    (chain.push leaf).EndsExact where
  first_eq := by
    rw [ids_push, List.head?_append, ← h.first_eq]
    rfl
  last_eq := by
    rw [ids_push, List.getLast?_concat]
    rfl

/-- There is no end just if there is no leaf. -/
theorem EndsExact.eq_none_iff {chain : LeafChain} (h : chain.EndsExact)
    (hlinked : chain.WellLinked) :
    (chain.first = none ↔ chain.size = 0) ∧ (chain.last = none ↔ chain.size = 0) := by
  rw [h.first_eq, h.last_eq, hlinked.size_eq, List.head?_eq_none_iff, List.getLast?_eq_none_iff,
    List.length_eq_zero_iff]
  exact ⟨Iff.rfl, Iff.rfl⟩

/-! ## Links at the ends -/

section Links

variable {chain : LeafChain} (h : chain.WellLinked) {i j : LeafId}

include h

/-- A link from the first leaf leads to the second one. -/
theorem WellLinked.head?_of_next? {after : List LeafId} (hids : chain.ids = i :: after)
    (hij : chain.next? i = some j) : after.head? = some j := by
  have hsorted := chain.pairwise_ids
  rw [hids] at hsorted
  obtain ⟨hlt, hafter⟩ := List.pairwise_cons.1 hsorted
  -- The leaf `j` comes after `i`, and no leaf comes between the two.
  have hj : j ∈ after := by
    have hmem := mem_ids.2 (isLive_of_previous? (h.previous_of_next i j hij))
    rw [hids] at hmem
    exact (List.mem_cons.1 hmem).resolve_left (Nat.ne_of_gt (h.lt_of_next i j hij))
  cases after with
  | nil => simp at hj
  | cons k rest =>
    have hk : chain.IsLive k := mem_ids.1 (by rw [hids]; simp)
    rcases List.mem_cons.1 hj with rfl | hjrest
    · rfl
    · have hkj : k < j := (List.pairwise_cons.1 hafter).1 j hjrest
      exact absurd hk (h.between i j k hij (hlt k List.mem_cons_self) hkj)

/-- A link from a leaf leads back to the last one in front of it. -/
theorem WellLinked.getLast?_of_previous? {before after : List LeafId}
    (hids : chain.ids = before ++ j :: after) (hij : chain.previous? j = some i) :
    before.getLast? = some i := by
  have hsorted := chain.pairwise_ids
  rw [hids] at hsorted
  obtain ⟨hbefore, hafter, hlt⟩ := List.pairwise_append.1 hsorted
  have hnext := h.next_of_previous i j hij
  -- The leaf `i` comes in front of `j`, and no leaf comes between the two.
  have hi : i ∈ before := by
    have hlti := h.lt_of_next i j hnext
    have hmem := mem_ids.2 (isLive_of_next? hnext)
    rw [hids, List.mem_append, List.mem_cons] at hmem
    refine hmem.resolve_right ?_
    rintro (rfl | hmem)
    · exact Nat.lt_irrefl _ hlti
    · exact Nat.lt_asymm hlti ((List.pairwise_cons.1 hafter).1 i hmem)
  rcases List.eq_nil_or_concat before with rfl | ⟨rest, k, rfl⟩
  · simp at hi
  · rw [List.concat_eq_append] at hids hi hbefore hlt ⊢
    have hk : chain.IsLive k := mem_ids.1 (by rw [hids]; simp)
    rw [List.getLast?_concat]
    rcases List.mem_append.1 hi with hirest | hi
    · have hik : i < k := (List.pairwise_append.1 hbefore).2.2 i hirest k List.mem_cons_self
      have hkj : k < j := hlt k (by simp) j List.mem_cons_self
      exact absurd hk (h.between i j k hnext hik hkj)
    · rw [List.mem_singleton.1 hi]

end Links

/-! ## Disposing of a leaf -/

section Remove

variable {chain : LeafChain} {id : LeafId} {node : ChainNode} (h : chain.WellLinked)
  (hget : chain.get? id = some node)

include h

/-- If the chain began at its first leaf, it still does, unless it began at a leaf with no link to
the others. -/
theorem WellLinked.first_remove_iff (hfirst : chain.first = chain.ids.head?) :
    (chain.remove id node hget).first = (chain.remove id node hget).ids.head? ↔
      ¬(chain.ids ≠ [id] ∧ chain.ids.head? = some id ∧ chain.next? id = none) := by
  have hnode : node.next = chain.next? id := (next?_of_get? hget).symm
  change (if chain.first = some id then node.next else chain.first) = _ ↔ _
  rw [hnode, hfirst, ids_remove]
  cases hids : chain.ids with
  | nil =>
    have hmem : id ∈ chain.ids := mem_ids.2 (isLive_iff.2 ⟨node, hget⟩)
    simp [hids] at hmem
  | cons i after =>
    by_cases hi : i = id
    · subst hi
      rw [List.erase_cons_head, List.head?_cons, if_pos rfl]
      cases hnext : chain.next? i with
      | none => simp [eq_comm]
      | some j => simp [h.head?_of_next? hids hnext]
    · -- The first leaf is another one and stays.
      have hne : ¬(i == id) = true := by simpa using hi
      simp [List.erase_cons_tail hne, hi]

/-- If the chain ended at its last leaf, it still does, unless it ended at a leaf with no link to
the others. -/
theorem WellLinked.last_remove_iff (hlast : chain.last = chain.ids.getLast?) :
    (chain.remove id node hget).last = (chain.remove id node hget).ids.getLast? ↔
      ¬(chain.ids ≠ [id] ∧ chain.ids.getLast? = some id ∧ chain.previous? id = none) := by
  have hnode : node.previous = chain.previous? id := (previous?_of_get? hget).symm
  change (if chain.last = some id then node.previous else chain.last) = _ ↔ _
  rw [hnode, hlast, ids_remove]
  have hnodup : chain.ids.Nodup := chain.pairwise_ids.imp Nat.ne_of_lt
  rcases List.eq_nil_or_concat chain.ids with hids | ⟨before, k, hids⟩
  · have hmem : id ∈ chain.ids := mem_ids.2 (isLive_iff.2 ⟨node, hget⟩)
    simp [hids] at hmem
  · rw [List.concat_eq_append] at hids
    rw [hids] at hnodup ⊢
    rw [List.getLast?_concat]
    by_cases hk : k = id
    · -- The last leaf is taken out, so that the chain ends where its link leads to.
      subst hk
      have hbefore : k ∉ before := fun hmem =>
        (List.nodup_append.1 hnodup).2.2 k hmem k List.mem_cons_self rfl
      rw [List.erase_append_right _ hbefore, List.erase_cons_head, List.append_nil, if_pos rfl]
      cases hprev : chain.previous? k with
      | none => simp [eq_comm]
      | some i => simp [h.getLast?_of_previous? hids hprev]
    · -- The last leaf is another one and stays.
      have hmem : id ∈ before := by
        have hmem : id ∈ chain.ids := mem_ids.2 (isLive_iff.2 ⟨node, hget⟩)
        simpa [hids, Ne.symm hk] using hmem
      rw [List.erase_append_left _ hmem, List.getLast?_concat]
      simp [hk]

/-- The ends stay right just if the leaf taken out is not cut off. -/
theorem EndsExact.remove_iff (hends : chain.EndsExact) :
    (chain.remove id node hget).EndsExact ↔ ¬chain.IsCutOff id := by
  have hfirst := h.first_remove_iff hget hends.first_eq
  have hlast := h.last_remove_iff hget hends.last_eq
  constructor
  · rintro ⟨hf, hl⟩ ⟨hne, hhead | htail⟩
    · exact hfirst.1 hf ⟨hne, hhead⟩
    · exact hlast.1 hl ⟨hne, htail⟩
  · intro hcut
    refine ⟨hfirst.2 ?_, hlast.2 ?_⟩
    · rintro ⟨hne, hhead⟩
      exact hcut ⟨hne, Or.inl hhead⟩
    · rintro ⟨hne, htail⟩
      exact hcut ⟨hne, Or.inr htail⟩

end Remove

/-! ## Runs -/

/-- A step keeps the ends right just if it disposes of no leaf that is cut off. -/
theorem EndsExact.apply_iff {chain : LeafChain} (hends : chain.EndsExact) (h : chain.WellLinked)
    (s : ChainStep) :
    (chain.apply s).EndsExact ↔ ∀ id, s = .dispose id → ¬chain.IsCutOff id := by
  cases s with
  | push leaf => exact iff_of_true (hends.push leaf) fun id heq => nomatch heq
  | clear => exact iff_of_true endsExact_empty fun id heq => nomatch heq
  | dispose id =>
    have hcut : (∀ i, ChainStep.dispose id = .dispose i → ¬chain.IsCutOff i) ↔
        ¬chain.IsCutOff id := by
      simp
    rw [hcut]
    change (chain.dispose id).2.EndsExact ↔ _
    rcases chain.dispose_cases id with ⟨node, hget, heq⟩ | ⟨hdead, heq⟩
    · rw [heq]
      exact hends.remove_iff h hget
    · -- A number without a leaf changes nothing, and is not cut off either.
      rw [heq]
      exact iff_of_true hends fun hcut => not_isLive_iff.2 hdead hcut.isLive

/-- The ends are right all along a run just if no step disposes of a leaf that is cut off. -/
theorem run_endsExact_iff (steps : List ChainStep) :
    (∀ done, done <+: steps → (LeafChain.empty.run done).EndsExact) ↔
      ∀ done id, done ++ [.dispose id] <+: steps → ¬(LeafChain.empty.run done).IsCutOff id := by
  constructor
  · intro hends done id hdone
    have hbefore := hends done ((List.prefix_append done _).trans hdone)
    have hafter := hends _ hdone
    rw [run_concat] at hafter
    exact (hbefore.apply_iff (run_wellLinked done) _).1 hafter id rfl
  · -- The ends after a step are right if they were before it and no cut off leaf was disposed of.
    intro hcut done
    induction done using List.reverseRecOn with
    | nil => exact fun _ => endsExact_empty
    | append_singleton done s ih =>
      intro hdone
      have hbefore := ih ((List.prefix_append done [s]).trans hdone)
      rw [run_concat, hbefore.apply_iff (run_wellLinked done)]
      rintro id rfl
      exact hcut done id hdone

/-- The chain begins at a leaf, if it begins anywhere. -/
def FirstLive (chain : LeafChain) : Prop := ∀ f, chain.first = some f → chain.IsLive f

/-- A leaf more keeps the start among the leaves. -/
theorem FirstLive.push {chain : LeafChain} (h : chain.FirstLive) (leaf : Leaf) :
    (chain.push leaf).FirstLive := by
  intro f hf
  change chain.first.or (some chain.nextId) = some f at hf
  rw [isLive_push]
  rcases Option.or_eq_some_iff.1 hf with hf | ⟨-, hf⟩
  · exact Or.inr (h f hf)
  · exact Or.inl (Option.some.inj hf).symm

/-- So does a leaf less, since the start then moves on to its neighbour. -/
theorem FirstLive.remove {chain : LeafChain} (h : chain.FirstLive) (hlinked : chain.WellLinked)
    {id : LeafId} {node : ChainNode} (hget : chain.get? id = some node) :
    (chain.remove id node hget).FirstLive := by
  intro f hf
  change (if chain.first = some id then node.next else chain.first) = some f at hf
  rw [isLive_remove]
  split at hf
  next =>
    -- The next leaf is another one and links back.
    have hnext : chain.next? id = some f := (next?_of_get? hget).trans hf
    exact ⟨Nat.ne_of_gt (hlinked.lt_of_next id f hnext),
      isLive_of_previous? (hlinked.previous_of_next id f hnext)⟩
  next hne => exact ⟨fun hfid => hne (hfid ▸ hf), h f hf⟩

/-- So the start is a leaf after any steps. -/
theorem run_firstLive (steps : List ChainStep) : (LeafChain.empty.run steps).FirstLive := by
  have hstep : ∀ (chain : LeafChain) s, chain.WellLinked ∧ chain.FirstLive →
      (chain.apply s).WellLinked ∧ (chain.apply s).FirstLive := by
    rintro chain s ⟨hlinked, h⟩
    refine ⟨hlinked.apply s, ?_⟩
    cases s with
    | push leaf => exact h.push leaf
    | clear => exact fun f hf => nomatch hf
    | dispose id =>
      change (chain.dispose id).2.FirstLive
      rcases chain.dispose_cases id with ⟨node, hget, heq⟩ | ⟨-, heq⟩
      · rw [heq]
        exact h.remove hlinked hget
      · rw [heq]
        exact h
  exact (run_of_apply hstep ⟨wellLinked_empty, fun f hf => nomatch hf⟩ steps).2

/-- As long as no step disposes of a leaf that is cut off, and no longer than that, the chain begins
at its first leaf and ends at its last one, and has no ends just if it has no leaf. After any steps,
it ends at its last leaf or has no end, and it begins at a leaf or nowhere. -/
theorem run_ends (steps : List ChainStep) :
    ((∀ done, done <+: steps → (LeafChain.empty.run done).EndsExact) ↔
      ∀ done id, done ++ [.dispose id] <+: steps → ¬(LeafChain.empty.run done).IsCutOff id) ∧
    let chain := LeafChain.empty.run steps
    (chain.EndsExact → chain.first = chain.ids.head? ∧ chain.last = chain.ids.getLast? ∧
      (chain.first = none ↔ chain.size = 0) ∧ (chain.last = none ↔ chain.size = 0)) ∧
      (∀ l, chain.last = some l → chain.ids.getLast? = some l) ∧
      ∀ f, chain.first = some f → f ∈ chain.ids := by
  refine ⟨run_endsExact_iff steps, ?_⟩
  intro chain
  have h : chain.WellLinked := run_wellLinked steps
  refine ⟨?exact, ?last, ?first⟩
  case exact =>
    intro hends
    obtain ⟨hfirst, hlast⟩ := hends.eq_none_iff h
    exact ⟨hends.first_eq, hends.last_eq, hfirst, hlast⟩
  case last =>
    intro l hl
    exact getLast?_ids (h.isLive_last l hl) fun k => h.final_last l k hl
  case first => exact fun f hf => mem_ids.2 (run_firstLive steps f hf)

/-- The ends do not stay right. After the second of three leaves, the first one is disposed of, and
the chain begins nowhere though a leaf is left; the next leaf pushed is then where it begins, behind
the one that is left. -/
theorem run_ends_cut_off :
    let leaf (start stop : Nat) : Leaf :=
      ⟨.word, ⟨start, stop⟩, .empty start, false, stop - start, false⟩
    let steps : List ChainStep :=
      [.push (leaf 0 1), .push (leaf 2 3), .push (leaf 4 5), .dispose 1, .dispose 0]
    let chain := LeafChain.empty.run steps
    let longer := chain.push (leaf 6 7)
    (chain.first = none ∧ chain.ids = [2] ∧ chain.size = 1) ∧
      longer.first = some 3 ∧ longer.ids = [2, 3] := by
  decide

end NotebookLayout.LeafChain
