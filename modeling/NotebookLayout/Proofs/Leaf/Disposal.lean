import NotebookLayout.Proofs.Leaf.Links
import NotebookLayout.Proofs.Leaf.Trail

/-!
# Walks when a leaf is disposed of

Disposing of a leaf cuts the links to it, and so ends the walks that would have crossed it:

- `pairwise_trail`: a walk visits leaf after leaf with smaller and smaller numbers, none twice;
- `WellLinked.get?_remove_of_ne`: a leaf loses its link to the one in front of it just if that one
  is taken out;
- `WellLinked.trail_remove` and `WellLinked.visited_dispose`: a walk keeps the leaves visited before
  the one disposed of;
- `run_indent?_dispose`: so a leaf stays where it is unless its walk visits the one disposed of, and
  is then behind the leaves visited before that one.
-/

namespace NotebookLayout.LeafChain

/-! ## The leaves of a walk -/

/-- The walk from a leaf is what comes after the leaf on its trail. -/
theorem tail_trail (chain : LeafChain) (id : LeafId) :
    (chain.trail id).tail = chain.visited id := by
  cases h : chain.get? id with
  | none =>
    rw [trail_of_get?_eq_none h, visited, h]
    rfl
  | some node =>
    rw [trail_of_get?_eq_some h, visited_of_get?_eq_some h]
    rfl

/-- A walk goes back to smaller numbers. -/
theorem le_of_mem_trail {chain : LeafChain} {id : LeafId} {e : LeafId × Leaf}
    (h : e ∈ chain.trail id) : e.1 ≤ id := by
  induction id using walk_induction chain with
  | empty id hget => simp [trail_of_get?_eq_none hget] at h
  | lineStart id node hget hp =>
    rw [trail_of_get?_eq_some hget, hp] at h
    obtain rfl := List.mem_singleton.1 h
    exact Nat.le_refl _
  | back id node p hget hp ih =>
    have hlt := chain.previous_lt hget (ChainNode.previous_of_previousOnLine hp)
    rw [trail_of_get?_eq_some hget, hp] at h
    rcases List.mem_cons.1 h with rfl | h
    · exact Nat.le_refl _
    · exact Nat.le_trans (ih h) (Nat.le_of_lt hlt)

/-- The numbers on a trail get smaller. -/
theorem pairwise_trail (chain : LeafChain) (id : LeafId) :
    (chain.trail id).Pairwise fun a b => b.1 < a.1 := by
  induction id using walk_induction chain with
  | empty id h =>
    rw [trail_of_get?_eq_none h]
    exact .nil
  | lineStart id node h hp =>
    rw [trail_of_get?_eq_some h, hp]
    exact List.pairwise_singleton _ _
  | back id node p h hp ih =>
    have hlt := chain.previous_lt h (ChainNode.previous_of_previousOnLine hp)
    rw [trail_of_get?_eq_some h, hp]
    exact List.pairwise_cons.2 ⟨fun e he => Nat.lt_of_le_of_lt (le_of_mem_trail he) hlt, ih⟩

/-- The leaves visited have falling numbers. -/
theorem pairwise_visited (chain : LeafChain) (id : LeafId) :
    (chain.visited id).Pairwise fun a b => b.1 < a.1 := by
  rw [← tail_trail]
  exact (chain.pairwise_trail id).tail

/-- A trail up to the leaf that it begins with is empty. -/
theorem takeWhile_trail_self (chain : LeafChain) (id : LeafId) :
    (chain.trail id).takeWhile (·.1 ≠ id) = [] := by
  cases h : chain.get? id with
  | none =>
    rw [trail_of_get?_eq_none h]
    rfl
  | some node =>
    rw [trail_of_get?_eq_some h]
    exact List.takeWhile_cons_of_neg (by simp)

/-! ## Taking out a leaf -/

section Remove

variable {chain : LeafChain} {d : LeafId} {taken : ChainNode} (h : chain.WellLinked)
  (hget : chain.get? d = some taken)

include h

/-- Any other leaf stays, and loses its link to the leaf in front of it just if that is the one
taken out. -/
theorem WellLinked.get?_remove_of_ne {id : LeafId} {node : ChainNode} (hid : id ≠ d)
    (hnode : chain.get? id = some node) :
    ∃ node', (chain.remove d taken hget).get? id = some node' ∧ node'.leaf = node.leaf ∧
      node'.previousOnLine =
        if node.previousOnLine = some d then none else node.previousOnLine := by
  obtain ⟨node', hnode'⟩ : ∃ node', (chain.remove d taken hget).get? id = some node' :=
    isLive_iff.1 ((isLive_remove chain d taken hget id).2 ⟨hid, isLive_iff.2 ⟨node, hnode⟩⟩)
  have hleaf : node'.leaf = node.leaf := by
    have hkept := leaf?_remove chain d taken hget id
    rw [if_neg hid, leaf?_of_get? hnode', leaf?_of_get? hnode] at hkept
    exact Option.some.inj hkept
  -- No link to the leaf in front is new, and the one to `d` is the only one that is cut.
  have hprevious : ∀ p, node'.previous = some p ↔ node.previous = some p ∧ p ≠ d := by
    intro p
    have hlink := h.previous?_remove_iff hget (i := p) (j := id)
    rw [previous?, previous?, hnode, hnode'] at hlink
    exact hlink.trans (and_congr_right fun _ => and_iff_left hid)
  refine ⟨node', hnode', hleaf, ?_⟩
  apply Option.ext
  intro p
  rw [ChainNode.previousOnLine, ChainNode.previousOnLine, hleaf]
  split
  next => simp
  next =>
    rw [hprevious]
    split
    next hd => simp [hd, eq_comm]
    next hd =>
      refine and_iff_left_of_imp fun hp hpd => hd ?_
      rw [hp, hpd]

/-- A trail keeps the leaves visited before the one taken out. -/
theorem WellLinked.trail_remove (id : LeafId) :
    (chain.remove d taken hget).trail id = (chain.trail id).takeWhile (·.1 ≠ d) := by
  have hlive := isLive_remove chain d taken hget
  by_cases hid : id = d
  · have hdead : (chain.remove d taken hget).get? id = none :=
      not_isLive_iff.1 fun hid' => ((hlive id).1 hid').1 hid
    rw [trail_of_get?_eq_none hdead, hid, takeWhile_trail_self]
  · -- The walk is followed in the chain that still has `d`, and compared step by step.
    induction id using walk_induction chain with
    | empty id hnone =>
      have hdead : (chain.remove d taken hget).get? id = none :=
        not_isLive_iff.1 fun hid' => not_isLive_iff.2 hnone ((hlive id).1 hid').2
      rw [trail_of_get?_eq_none hdead, trail_of_get?_eq_none hnone]
      rfl
    | lineStart id node hnode hp =>
      obtain ⟨node', hnode', hleaf, hprevious⟩ := h.get?_remove_of_ne hget hid hnode
      rw [trail_of_get?_eq_some hnode', trail_of_get?_eq_some hnode, hleaf, hprevious, hp,
        List.takeWhile_cons_of_pos (by simpa using hid)]
      rfl
    | back id node p hnode hp ih =>
      obtain ⟨node', hnode', hleaf, hprevious⟩ := h.get?_remove_of_ne hget hid hnode
      rw [trail_of_get?_eq_some hnode', trail_of_get?_eq_some hnode, hleaf, hprevious, hp,
        List.takeWhile_cons_of_pos (by simpa using hid)]
      -- The walk ends here if it would have gone on to the leaf taken out.
      by_cases hpd : p = d
      · rw [hpd, if_pos rfl, Option.elim_some, takeWhile_trail_self]
        rfl
      · rw [if_neg (by simpa using hpd), Option.elim_some, Option.elim_some, ih hpd]

/-- Taking a leaf out ends the walk where that leaf was. -/
theorem WellLinked.visited_remove {id : LeafId} (hid : id ≠ d) :
    (chain.remove d taken hget).visited id = (chain.visited id).takeWhile (·.1 ≠ d) := by
  rw [← tail_trail, h.trail_remove hget, ← tail_trail]
  cases hnode : chain.get? id with
  | none =>
    rw [trail_of_get?_eq_none hnode]
    rfl
  | some node =>
    rw [trail_of_get?_eq_some hnode, List.takeWhile_cons_of_pos (by simpa using hid)]
    rfl

end Remove

/-- A walk keeps the leaves visited before the one disposed of. -/
theorem WellLinked.visited_dispose {chain : LeafChain} (h : chain.WellLinked) {id d : LeafId}
    (hid : id ≠ d) :
    (chain.dispose d).2.visited id = (chain.visited id).takeWhile (·.1 ≠ d) := by
  rcases chain.dispose_cases d with ⟨taken, hget, heq⟩ | ⟨hdead, heq⟩
  · rw [heq, h.visited_remove hget hid]
  · -- Walks visit leaves only, so they do not visit a number without one.
    rw [heq, eq_comm, List.takeWhile_eq_self_iff]
    intro e he
    have hlive := isLive_of_leaf? (leaf?_of_mem_visited he)
    exact decide_eq_true fun hed => not_isLive_iff.2 hdead (hed ▸ hlive)

/-! ## Runs -/

/-- After any steps, pushing a leaf puts no other leaf elsewhere. Disposing of a leaf puts another
one elsewhere only if the walk from that one visits it; what is left of the walk is then just the
leaves visited before, and the leaf is behind their columns and its own gap. -/
theorem run_indent?_dispose (steps : List ChainStep) :
    let chain := LeafChain.empty.run steps
    (∀ leaf id, chain.IsLive id → (chain.push leaf).indent? id = chain.indent? id) ∧
      ∀ d id node, chain.get? id = some node → id ≠ d →
        let disposed := (chain.dispose d).2
        ((∀ e ∈ chain.visited id, e.1 ≠ d) → disposed.indent? id = chain.indent? id) ∧
          ∀ before leaf after, chain.visited id = before ++ (d, leaf) :: after →
            disposed.visited id = before ∧
              disposed.indent? id =
                some (node.leaf.gap.indent + (before.map (·.2.advance)).sum) := by
  intro chain
  have h : chain.WellLinked := run_wellLinked steps
  refine ⟨fun leaf id hlive => chain.indent?_push leaf hlive.ne_nextId, ?_⟩
  intro d id node hnode hid disposed
  have hleaf : disposed.leaf? id = chain.leaf? id := by
    rw [leaf?_dispose, if_neg hid]
  have hvisited := h.visited_dispose hid
  constructor
  · intro hnot
    have hkept : disposed.visited id = chain.visited id := by
      rw [hvisited, List.takeWhile_eq_self_iff]
      simpa using hnot
    rw [indent?_eq_map_leaf?, indent?_eq_map_leaf?, hleaf, hkept]
  · intro before leaf after hsplit
    have hsmaller := chain.pairwise_visited id
    rw [hsplit] at hsmaller hvisited
    -- The walk visits no leaf twice, so `d` is not among those visited before.
    have hbefore : ∀ e ∈ before, decide (e.1 ≠ d) = true := by
      intro e he
      have hlt := (List.pairwise_append.1 hsmaller).2.2 e he (d, leaf) List.mem_cons_self
      exact decide_eq_true (Nat.ne_of_gt hlt)
    have hkept : disposed.visited id = before := by
      rw [hvisited, List.takeWhile_append_of_pos hbefore, List.takeWhile_cons_of_neg (by simp),
        List.append_nil]
    refine ⟨hkept, ?_⟩
    rw [indent?_eq_map_leaf?, hleaf, leaf?_of_get? hnode, hkept, Indent.add_comm]
    rfl

/-- The third leaf begins a line, the first one was disposed of. Disposing of the second one is not
seen from the last one, and disposing of the third or of the fourth one takes away what the walk
adds from there on. -/
theorem run_indent?_dispose_line_start :
    let leaf (start stop : Nat) (t : Text) : Leaf :=
      ⟨.word, ⟨start, stop⟩, .measure 4 (start - Text.byteSize t) t, false, stop - start, false⟩
    let third := leaf 7 8 ['\n', '\t']
    let fourth := leaf 9 11 [' ']
    let steps : List ChainStep :=
      [.push (leaf 0 2 []), .push (leaf 3 5 [' ']), .push third, .push fourth, .dispose 0,
        .push (leaf 13 14 [' ', ' '])]
    let chain := LeafChain.empty.run steps
    (chain.IsLive 2 ∧ (chain.push fourth).indent? 2 = chain.indent? 2) ∧
      ((∀ e ∈ chain.visited 4, e.1 ≠ 1) ∧ (chain.dispose 1).2.indent? 4 = chain.indent? 4) ∧
      (chain.visited 4 = [(3, fourth)] ++ (2, third) :: [] ∧
        (chain.dispose 2).2.indent? 4 = some ⟨0, 5⟩) ∧
      chain.visited 4 = [] ++ (3, fourth) :: [(2, third)] ∧
        (chain.dispose 3).2.indent? 4 = some ⟨0, 2⟩ := by
  intro leaf third fourth steps chain
  obtain ⟨hpush, hdispose⟩ := run_indent?_dispose steps
  have hlive : chain.IsLive 2 := by decide
  have hunseen : ∀ e ∈ chain.visited 4, e.1 ≠ 1 := by decide +kernel
  have hthird : chain.visited 4 = [(3, fourth)] ++ (2, third) :: [] := by decide +kernel
  have hfourth : chain.visited 4 = [] ++ (3, fourth) :: [(2, third)] := by decide +kernel
  obtain ⟨node, hnode, hgap⟩ : ∃ node, chain.get? 4 = some node ∧ node.leaf.gap.indent = ⟨0, 2⟩ :=
    Option.map_eq_some_iff.1 (by decide)
  have htwo := ((hdispose 2 4 node hnode (by decide)).2 _ _ _ hthird).2
  have hthree := ((hdispose 3 4 node hnode (by decide)).2 _ _ _ hfourth).2
  rw [hgap] at htwo hthree
  exact ⟨⟨hlive, hpush fourth 2 hlive⟩, ⟨hunseen, (hdispose 1 4 node hnode (by decide)).1 hunseen⟩,
    ⟨hthird, htwo⟩, hfourth, hthree⟩

end NotebookLayout.LeafChain
