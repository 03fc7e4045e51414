import NotebookLayout.Proofs.Leaf.Ends

/-!
# Walks along a chain

Disposing of a leaf leaves a chain in pieces. A chain that was only pushed onto is in one piece, and
following its links visits all leaves:

- `Walk`: the leaves that following links from an end visits;
- `Unbroken.push`: adding a leaf keeps a chain in one piece;
- `Unbroken.walk_next` and `Unbroken.walk_previous`: the walks through such a chain.
-/

namespace NotebookLayout.LeafChain

/-- Following `link` from a leaf, if there is one, visits just these leaves in this order. -/
inductive Walk (link : LeafId → Option LeafId) : Option LeafId → List LeafId → Prop where
  | stop : Walk link none []
  | visit {id : LeafId} {rest : List LeafId} (h : Walk link (link id) rest) :
      Walk link (some id) (id :: rest)

/-- Where each leaf is linked to the next one of a list, and the last one to none, the walk visits
the list. -/
theorem walk_of_isChain {link : LeafId → Option LeafId} {ids : List LeafId}
    (hlinks : ids.IsChain fun i j => link i = some j)
    (hlast : ∀ l, ids.getLast? = some l → link l = none) : Walk link ids.head? ids := by
  induction ids with
  | nil => exact .stop
  | cons i rest ih =>
    obtain ⟨hhead, hrest⟩ := List.isChain_cons.1 hlinks
    refine .visit ?_
    cases rest with
    | nil =>
      rw [hlast i rfl]
      exact .stop
    | cons j rest =>
      rw [hhead j rfl]
      exact ih hrest fun l hl => hlast l (by rwa [List.getLast?_cons_cons])

/-- The chain is in one piece: from its first leaf to its last one, each is linked to the next. -/
structure Unbroken (chain : LeafChain) : Prop extends WellLinked chain, EndsExact chain where
  next_eq : chain.ids.IsChain fun i j => chain.next? i = some j

/-- A chain without leaves is in one piece. -/
theorem unbroken_empty : Unbroken .empty where
  toWellLinked := wellLinked_empty
  toEndsExact := endsExact_empty
  next_eq := .nil

/-- A leaf more keeps the chain in one piece. -/
theorem Unbroken.push {chain : LeafChain} (h : chain.Unbroken) (leaf : Leaf) :
    (chain.push leaf).Unbroken where
  toWellLinked := h.toWellLinked.push leaf
  toEndsExact := h.toEndsExact.push leaf
  next_eq := by
    have hnext := fun i => next?_push chain leaf i h.isLive_last
    rw [ids_push]
    refine List.isChain_append.2 ⟨?_, .singleton _, ?_⟩
    · refine h.next_eq.imp fun i j hij => ?_
      -- The old end had no link yet, so `i` is not the old end.
      have hne : chain.last ≠ some i := fun hlast => by simp [h.next_last i hlast] at hij
      rw [hnext, if_neg hne, hij]
    · intro i hi j hj
      obtain rfl : chain.nextId = j := Option.some.inj hj
      rw [hnext, if_pos (h.last_eq.trans hi)]

/-- From the start, the links lead through all leaves. -/
theorem Unbroken.walk_next {chain : LeafChain} (h : chain.Unbroken) :
    Walk chain.next? chain.first chain.ids := by
  rw [h.first_eq]
  exact walk_of_isChain h.next_eq fun l hl => h.next_last l (h.last_eq.trans hl)

/-- From the end, they lead back through all leaves. -/
theorem Unbroken.walk_previous {chain : LeafChain} (h : chain.Unbroken) :
    Walk chain.previous? chain.last chain.ids.reverse := by
  rw [h.last_eq, ← List.head?_reverse]
  refine walk_of_isChain ?_ ?_
  · exact List.isChain_reverse.2 (h.next_eq.imp fun i j hij => h.previous_of_next i j hij)
  · -- A leaf in front of the first one would have a smaller number.
    intro f hf
    rw [List.getLast?_reverse] at hf
    by_contra hne
    obtain ⟨p, hp⟩ := Option.ne_none_iff_exists'.1 hne
    have hnext := h.next_of_previous p f hp
    have hlt := h.lt_of_next p f hnext
    obtain ⟨rest, hids⟩ := List.head?_eq_some_iff.1 hf
    have hsorted := chain.pairwise_ids
    have hmem := mem_ids.2 (isLive_of_next? hnext)
    rw [hids] at hsorted hmem
    rcases List.mem_cons.1 hmem with rfl | hmem
    · exact Nat.lt_irrefl _ hlt
    · exact Nat.lt_asymm hlt ((List.pairwise_cons.1 hsorted).1 p hmem)

end NotebookLayout.LeafChain
