import Mathlib.Data.List.Basic
import NotebookLayout.Leaf.Chain

/-!
# Runs of a chain

A chain is worked on by three steps: a leaf is pushed at its end, a leaf is disposed of, or the
chain is cleared. This file fixes runs of such steps, the numbers of the leaves in document order,
and what a step does to each of them:

- `ids_push` and `ids_remove`: the numbers in use after a step;
- `leaf?_push` and `leaf?_remove`: a step changes no leaf but the one it is about;
- `next?_push`, `previous?_push`, `next?_remove`, `previous?_remove`: the links after a step.
-/

namespace NotebookLayout

/-- One change of a chain. -/
inductive ChainStep where
  /-- Adds a leaf at the end. -/
  | push (leaf : Leaf)
  /-- Disposes of the leaf with a number, if there is one. -/
  | dispose (id : LeafId)
  /-- Disposes of every leaf. -/
  | clear

namespace LeafChain

/-! ## Runs -/

/-- The chain after one step. -/
def apply (chain : LeafChain) : ChainStep → LeafChain
  | .push leaf => chain.push leaf
  | .dispose id => (chain.dispose id).2
  | .clear => .empty

/-- The chain after some steps. -/
def run (chain : LeafChain) (steps : List ChainStep) : LeafChain := steps.foldl apply chain

@[simp] theorem run_nil (chain : LeafChain) : chain.run [] = chain := rfl

@[simp] theorem run_cons (chain : LeafChain) (s : ChainStep) (steps : List ChainStep) :
    chain.run (s :: steps) = (chain.apply s).run steps := rfl

/-- Steps can be taken in two parts. -/
theorem run_append (chain : LeafChain) (steps more : List ChainStep) :
    chain.run (steps ++ more) = (chain.run steps).run more := List.foldl_append

/-- The last step comes after all others. -/
theorem run_concat (chain : LeafChain) (steps : List ChainStep) (s : ChainStep) :
    chain.run (steps ++ [s]) = (chain.run steps).apply s := chain.run_append steps [s]

/-- What holds of a chain and is kept by every step holds after every run. -/
theorem run_of_apply {P : LeafChain → Prop} (hstep : ∀ chain s, P chain → P (chain.apply s))
    {chain : LeafChain} (h : P chain) (steps : List ChainStep) : P (chain.run steps) := by
  induction steps generalizing chain with
  | nil => exact h
  | cons s steps ih => exact ih (hstep chain s h)

/-- Disposing of a leaf either takes it out or, if there is none, changes nothing. -/
theorem dispose_cases (chain : LeafChain) (id : LeafId) :
    (∃ node h, chain.dispose id = (some node, chain.remove id node h)) ∨
      chain.get? id = none ∧ chain.dispose id = (none, chain) := by
  unfold dispose
  split
  next node h => exact Or.inl ⟨node, h, rfl⟩
  next h => exact Or.inr ⟨h, rfl⟩

/-! ## The numbers of the leaves -/

/-- The numbers of the leaves, in document order. -/
def ids (chain : LeafChain) : List LeafId := chain.entries.map (·.1)

/-- There is a number for each leaf. -/
theorem length_ids (chain : LeafChain) : chain.ids.length = chain.entries.length := by
  rw [ids, List.length_map]

/-- There is a leaf with the number. -/
def IsLive (chain : LeafChain) (id : LeafId) : Prop := (chain.get? id).isSome

instance (chain : LeafChain) (id : LeafId) : Decidable (chain.IsLive id) := by
  unfold IsLive
  infer_instance

/-- A leaf is there if its slot holds a node. -/
theorem isLive_iff {chain : LeafChain} {id : LeafId} :
    chain.IsLive id ↔ ∃ node, chain.get? id = some node := Option.isSome_iff_exists

/-- A slot without a node holds no leaf. -/
theorem not_isLive_iff {chain : LeafChain} {id : LeafId} :
    ¬chain.IsLive id ↔ chain.get? id = none := by
  rw [IsLive, Option.not_isSome_iff_eq_none]

/-- The number of a leaf is that of a slot. -/
theorem IsLive.lt_size {chain : LeafChain} {id : LeafId} (h : chain.IsLive id) :
    id < chain.slots.size := by
  obtain ⟨node, hnode⟩ := isLive_iff.1 h
  exact LeafSlots.lt_size_of_get?_eq_some hnode

/-- No leaf has the number that the next leaf gets. -/
theorem IsLive.ne_nextId {chain : LeafChain} {i : LeafId} (h : chain.IsLive i) :
    i ≠ chain.nextId := Nat.ne_of_lt h.lt_size

/-- The numbers in order are the slots' numbers less those of empty slots. -/
theorem ids_eq_filter (chain : LeafChain) :
    chain.ids = (List.range chain.slots.size).filter (chain.IsLive ·) := by
  rw [ids, entries]
  -- Nothing depends on the numbers being those of all slots.
  induction List.range chain.slots.size with
  | nil => rfl
  | cons id rest ih =>
    cases h : chain.get? id with
    | none => simpa [h, IsLive] using ih
    | some node => simpa [h, IsLive] using ih

/-- The entries are the leaves with their numbers. -/
theorem mem_entries {chain : LeafChain} {id : LeafId} {node : ChainNode} :
    (id, node) ∈ chain.entries ↔ chain.get? id = some node := by
  constructor
  · intro h
    obtain ⟨i, -, hi⟩ := List.mem_filterMap.1 h
    obtain ⟨n, hn, heq⟩ := Option.map_eq_some_iff.1 hi
    obtain ⟨rfl, rfl⟩ := Prod.mk.inj heq
    exact hn
  · intro h
    have hlt := LeafSlots.lt_size_of_get?_eq_some h
    exact List.mem_filterMap.2 ⟨id, List.mem_range.2 hlt, by rw [h]; rfl⟩

/-- The numbers listed are those of the leaves. -/
theorem mem_ids {chain : LeafChain} {id : LeafId} : id ∈ chain.ids ↔ chain.IsLive id := by
  rw [ids_eq_filter, List.mem_filter, List.mem_range, decide_eq_true_iff]
  exact and_iff_right_of_imp IsLive.lt_size

/-- They are listed in order. -/
theorem pairwise_ids (chain : LeafChain) : chain.ids.Pairwise (· < ·) := by
  rw [ids_eq_filter]
  exact List.pairwise_lt_range.filter _

/-- A leaf splits the others into those with smaller numbers and those with larger ones. -/
theorem exists_ids_eq_append {chain : LeafChain} {i : LeafId} (hi : chain.IsLive i) :
    ∃ before after, chain.ids = before ++ i :: after ∧ (∀ k ∈ before, k < i) ∧
      after.Pairwise (· < ·) ∧ ∀ k ∈ after, i < k := by
  obtain ⟨before, after, h⟩ := List.append_of_mem (mem_ids.2 hi)
  have hsorted := chain.pairwise_ids
  rw [h] at hsorted
  obtain ⟨-, hcons, hlt⟩ := List.pairwise_append.1 hsorted
  obtain ⟨hafter, hrest⟩ := List.pairwise_cons.1 hcons
  exact ⟨before, after, h, fun k hk => hlt k hk i List.mem_cons_self, hrest, hafter⟩

/-- The leaf after which no leaf comes is the final one. -/
theorem getLast?_ids {chain : LeafChain} {l : LeafId} (hl : chain.IsLive l)
    (hfinal : ∀ k, l < k → ¬chain.IsLive k) : chain.ids.getLast? = some l := by
  obtain ⟨before, after, h, -, -, hafter⟩ := exists_ids_eq_append hl
  have hnil : after = [] := by
    refine List.eq_nil_iff_forall_not_mem.2 fun k hk => hfinal k (hafter k hk) ?_
    rw [← mem_ids, h]
    exact List.mem_append_right _ (List.mem_cons_of_mem _ hk)
  rw [h, hnil, List.getLast?_concat]

/-- Two leaves without a leaf between them follow each other. -/
theorem pair_isInfix_ids {chain : LeafChain} {i j : LeafId} (hi : chain.IsLive i)
    (hj : chain.IsLive j) (hij : i < j) (hbetween : ∀ k, i < k → k < j → ¬chain.IsLive k) :
    [i, j] <:+: chain.ids := by
  obtain ⟨before, after, h, hbefore, hsorted, hafter⟩ := exists_ids_eq_append hi
  -- Only the numbers after `i` are larger than it, so `j` is one of them.
  have hmem : j ∈ after := by
    have hj' := mem_ids.2 hj
    rw [h, List.mem_append, List.mem_cons] at hj'
    rcases hj' with hj' | rfl | hj'
    · exact absurd hij (Nat.lt_asymm (hbefore j hj'))
    · exact absurd hij (Nat.lt_irrefl _)
    · exact hj'
  cases after with
  | nil => simp at hmem
  | cons k rest =>
    -- The next leaf `k` is not beyond `j`, and not between `i` and `j` either.
    have hk : chain.IsLive k := by
      rw [← mem_ids, h]
      simp
    have hik : i < k := hafter k List.mem_cons_self
    obtain rfl : k = j := by
      rcases List.mem_cons.1 hmem with rfl | hjrest
      · rfl
      · have hkj : k < j := (List.pairwise_cons.1 hsorted).1 j hjrest
        exact absurd hk (hbetween k hik hkj)
    exact ⟨before, rest, by rw [h]; simp⟩

/-! ## What a step does to leaves and links -/

/-- A leaf more takes one slot. -/
theorem size_slots_push (chain : LeafChain) (leaf : Leaf) :
    (chain.push leaf).slots.size = chain.nextId + 1 := by
  simp [push, nextId]

/-- A leaf less leaves its slot. -/
theorem size_slots_remove (chain : LeafChain) (id : LeafId) (node : ChainNode)
    (h : chain.get? id = some node) : (chain.remove id node h).slots.size = chain.slots.size := by
  simp [remove]

/-- No slot is given up when a leaf is disposed of. -/
theorem size_slots_dispose (chain : LeafChain) (id : LeafId) :
    (chain.dispose id).2.slots.size = chain.slots.size := by
  rcases chain.dispose_cases id with ⟨node, hget, heq⟩ | ⟨-, heq⟩
  · rw [heq, size_slots_remove]
  · rw [heq]

/-- The link to the leaf after it is that of the node. -/
theorem next?_of_get? {chain : LeafChain} {id : LeafId} {node : ChainNode}
    (h : chain.get? id = some node) : chain.next? id = node.next := by
  rw [next?, h]
  rfl

/-- The link to the leaf in front of it is that of the node. -/
theorem previous?_of_get? {chain : LeafChain} {id : LeafId} {node : ChainNode}
    (h : chain.get? id = some node) : chain.previous? id = node.previous := by
  rw [previous?, h]
  rfl

section Push

variable (chain : LeafChain) (leaf : Leaf) (i : LeafId)

/-- Adding a leaf adds just that one. -/
theorem isLive_push : (chain.push leaf).IsLive i ↔ i = chain.nextId ∨ chain.IsLive i := by
  unfold IsLive
  rw [get?_push]
  split
  next h => simp [h]
  next h => split <;> simp [h]

/-- The last leaf is linked to the new one. -/
theorem next?_push (hlast : ∀ l, chain.last = some l → chain.IsLive l) :
    (chain.push leaf).next? i =
      if chain.last = some i then some chain.nextId else chain.next? i := by
  have hdead : chain.get? chain.nextId = none := LeafSlots.get?_eq_none_of_size_le (Nat.le_refl _)
  unfold next?
  rw [get?_push]
  by_cases hi : i = chain.nextId
  · -- The new leaf is not the old end, which is live, so it gets no link to itself.
    have hne : chain.last ≠ some i := fun h => not_isLive_iff.2 (hi ▸ hdead) (hlast i h)
    rw [if_pos hi, if_neg hne, hi, hdead]
    rfl
  · rw [if_neg hi]
    split
    next h =>
      obtain ⟨node, hnode⟩ := isLive_iff.1 (hlast i h)
      rw [hnode]
      rfl
    next => rfl

/-- The new leaf is linked to the last one. -/
theorem previous?_push : (chain.push leaf).previous? i =
    if i = chain.nextId then chain.last else chain.previous? i := by
  unfold previous?
  rw [get?_push]
  split
  next => rfl
  next =>
    split
    next => cases chain.get? i <;> rfl
    next => rfl

end Push

section Remove

variable (chain : LeafChain) (id : LeafId) (node : ChainNode) (h : chain.get? id = some node)
  (i : LeafId)

/-- Taking a leaf out takes just that one. -/
theorem isLive_remove : (chain.remove id node h).IsLive i ↔ i ≠ id ∧ chain.IsLive i := by
  unfold IsLive
  rw [get?_remove]
  dsimp only
  by_cases hi : i = id
  · rw [if_pos hi]
    split <;> split <;> simp [hi]
  · rw [if_neg hi]
    split <;> split <;> simp [hi]

/-- The leaf in front loses its link to the one taken out. -/
theorem next?_remove : (chain.remove id node h).next? i =
    if i = id ∨ node.previous = some i then none else chain.next? i := by
  unfold next?
  rw [get?_remove]
  dsimp only
  by_cases hi : i = id
  · rw [if_pos hi, if_pos (Or.inl hi)]
    split <;> split <;> rfl
  · rw [if_neg hi]
    -- Of the two cuts, only that of the link forwards can be seen here.
    cases chain.get? i <;> split <;> split <;> simp_all [ChainNode.cutNext, ChainNode.cutPrevious]

/-- The leaf after loses its link to the one taken out. -/
theorem previous?_remove : (chain.remove id node h).previous? i =
    if i = id ∨ node.next = some i then none else chain.previous? i := by
  unfold previous?
  rw [get?_remove]
  dsimp only
  by_cases hi : i = id
  · rw [if_pos hi, if_pos (Or.inl hi)]
    split <;> split <;> rfl
  · rw [if_neg hi]
    cases chain.get? i <;> split <;> split <;> simp_all [ChainNode.cutNext, ChainNode.cutPrevious]

end Remove

/-- The leaf with a number, without its links. -/
def leaf? (chain : LeafChain) (id : LeafId) : Option Leaf := (chain.get? id).map (·.leaf)

/-- The leaf in a slot is that of the node. -/
theorem leaf?_of_get? {chain : LeafChain} {id : LeafId} {node : ChainNode}
    (h : chain.get? id = some node) : chain.leaf? id = some node.leaf := by
  rw [leaf?, h]
  rfl

/-- What has a number is there. -/
theorem isLive_of_leaf? {chain : LeafChain} {id : LeafId} {leaf : Leaf}
    (h : chain.leaf? id = some leaf) : chain.IsLive id := by
  obtain ⟨node, hnode, -⟩ := Option.map_eq_some_iff.1 h
  exact isLive_iff.2 ⟨node, hnode⟩

/-- Adding a leaf changes no other. -/
theorem leaf?_push (chain : LeafChain) (leaf : Leaf) (i : LeafId) :
    (chain.push leaf).leaf? i = if i = chain.nextId then some leaf else chain.leaf? i := by
  unfold leaf?
  rw [get?_push]
  split
  next => rfl
  next =>
    split
    next => cases chain.get? i <;> rfl
    next => rfl

/-- Taking a leaf out changes no other. -/
theorem leaf?_remove (chain : LeafChain) (id : LeafId) (node : ChainNode)
    (h : chain.get? id = some node) (i : LeafId) :
    (chain.remove id node h).leaf? i = if i = id then none else chain.leaf? i := by
  unfold leaf?
  rw [get?_remove]
  dsimp only
  by_cases hi : i = id
  · rw [if_pos hi, if_pos hi]
    split <;> split <;> rfl
  · rw [if_neg hi, if_neg hi]
    cases chain.get? i <;> split <;> split <;> rfl

/-- Disposing of a leaf changes no other one. -/
theorem leaf?_dispose (chain : LeafChain) (id i : LeafId) :
    (chain.dispose id).2.leaf? i = if i = id then none else chain.leaf? i := by
  rcases chain.dispose_cases id with ⟨node, hget, heq⟩ | ⟨hdead, heq⟩
  · rw [heq, leaf?_remove]
  · rw [heq]
    split
    next hi => rw [leaf?, hi, hdead, Option.map_none]
    next => rfl

/-- The leaves with their numbers, in document order and without their links. -/
def leaves (chain : LeafChain) : List (LeafId × Leaf) :=
  chain.entries.map fun (id, node) => (id, node.leaf)

/-- The leaves listed have the numbers listed. -/
theorem map_fst_leaves (chain : LeafChain) : chain.leaves.map (·.1) = chain.ids := by
  rw [leaves, ids, List.map_map]
  rfl

/-- The leaves are found slot by slot. -/
theorem leaves_eq_filterMap (chain : LeafChain) :
    chain.leaves = (List.range chain.slots.size).filterMap fun id =>
      (chain.leaf? id).map (id, ·) := by
  rw [leaves, entries, List.map_filterMap]
  refine List.filterMap_congr fun id _ => ?_
  rw [leaf?, Option.map_map, Option.map_map]
  rfl

/-- The leaves listed are there. -/
theorem isLive_of_mem_leaves {chain : LeafChain} {id : LeafId} {leaf : Leaf}
    (h : (id, leaf) ∈ chain.leaves) : chain.IsLive id := by
  obtain ⟨⟨i, node⟩, hmem, heq⟩ := List.mem_map.1 h
  obtain ⟨rfl, -⟩ := Prod.mk.inj heq
  exact isLive_iff.2 ⟨node, mem_entries.1 hmem⟩

/-- A new leaf is listed last. -/
theorem leaves_push (chain : LeafChain) (leaf : Leaf) :
    (chain.push leaf).leaves = chain.leaves ++ [(chain.nextId, leaf)] := by
  have hkept : (List.range chain.nextId).filterMap (fun id =>
      ((chain.push leaf).leaf? id).map (id, ·)) = chain.leaves := by
    rw [leaves_eq_filterMap]
    refine List.filterMap_congr fun i hi => ?_
    rw [leaf?_push, if_neg (Nat.ne_of_lt (List.mem_range.1 hi))]
  rw [leaves_eq_filterMap, size_slots_push, List.range_succ, List.filterMap_append, hkept]
  simp [leaf?_push]

/-- A new number is listed last. -/
theorem ids_push (chain : LeafChain) (leaf : Leaf) :
    (chain.push leaf).ids = chain.ids ++ [chain.nextId] := by
  -- No number in use before changes its state, and the new number is larger than all of them.
  have hkept : (List.range chain.nextId).filter ((chain.push leaf).IsLive ·) =
      (List.range chain.nextId).filter (chain.IsLive ·) := by
    refine List.filter_congr fun i hi => ?_
    have hne : i ≠ chain.nextId := Nat.ne_of_lt (List.mem_range.1 hi)
    simp [isLive_push, hne]
  have hnew : (chain.push leaf).IsLive chain.nextId := (isLive_push ..).2 (Or.inl rfl)
  rw [ids_eq_filter, ids_eq_filter, size_slots_push, List.range_succ, List.filter_append, hkept,
    List.filter_cons_of_pos (by simpa using hnew), List.filter_nil]
  rfl

/-- The number of a leaf that is taken out is no longer listed. -/
theorem ids_remove (chain : LeafChain) (id : LeafId) (node : ChainNode)
    (h : chain.get? id = some node) : (chain.remove id node h).ids = chain.ids.erase id := by
  -- As no number occurs twice, erasing one is leaving it out.
  have hnodup : chain.ids.Nodup := chain.pairwise_ids.imp Nat.ne_of_lt
  rw [hnodup.erase_eq_filter, ids_eq_filter, ids_eq_filter, size_slots_remove, List.filter_filter]
  refine List.filter_congr fun i _ => ?_
  by_cases hi : i = id <;> simp [isLive_remove, hi]

end LeafChain

end NotebookLayout
