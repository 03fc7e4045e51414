import NotebookLayout.Leaf.Basic

/-!
# Leaf chains

Leaves in document order, each in a numbered slot and linked to the leaf in front of it and the leaf
after it. A leaf is known by the number of its slot. Disposing of a leaf empties its slot and cuts
the links to it; the other leaves keep their numbers.

Main statements: `LeafChain.get?_push` and `LeafChain.get?_remove` say what the operations do to
every slot, and a link to a leaf in front leads to a smaller number (`LeafChain.previous_lt`), so
that a walk backwards ends.
-/

namespace NotebookLayout

/-- The number of a leaf's slot. -/
abbrev LeafId := Nat

/-- A leaf and its links. -/
structure ChainNode where
  /-- The leaf. -/
  leaf : Leaf
  /-- The leaf in front of it. -/
  previous : Option LeafId
  /-- The leaf after it. -/
  next : Option LeafId
  deriving DecidableEq

namespace ChainNode

/-- Links the leaf after it. -/
def linkNext (node : ChainNode) (id : LeafId) : ChainNode := { node with next := some id }

/-- Cuts the link to the leaf after it. -/
def cutNext (node : ChainNode) : ChainNode := { node with next := none }

/-- Cuts the link to the leaf in front of it. -/
def cutPrevious (node : ChainNode) : ChainNode := { node with previous := none }

@[simp] theorem previous_linkNext (node : ChainNode) (id : LeafId) :
    (node.linkNext id).previous = node.previous := rfl

@[simp] theorem previous_cutNext (node : ChainNode) : node.cutNext.previous = node.previous := rfl

@[simp] theorem previous_cutPrevious (node : ChainNode) : node.cutPrevious.previous = none := rfl

end ChainNode

/-! ## Slots -/

/-- Numbered slots; those of leaves that were disposed of are empty. -/
abbrev LeafSlots := Array (Option ChainNode)

namespace LeafSlots

/-- The node in a slot. -/
def get? (slots : LeafSlots) (id : LeafId) : Option ChainNode := slots[id]?.join

/-- Changes the node in a slot, if a slot is given and holds one. -/
def update (slots : LeafSlots) (id : Option LeafId) (f : ChainNode → ChainNode) : LeafSlots :=
  match id with
  | some i => slots.modify i (Option.map f)
  | none => slots

/-- Adds a slot. -/
def add (slots : LeafSlots) (node : ChainNode) : LeafSlots := slots.push (some node)

/-- Empties a slot. -/
def vacate (slots : LeafSlots) (id : LeafId) : LeafSlots := slots.setIfInBounds id none

@[simp] theorem size_update (slots : LeafSlots) (id : Option LeafId) (f : ChainNode → ChainNode) :
    (slots.update id f).size = slots.size := by
  cases id <;> simp [update]

@[simp] theorem size_add (slots : LeafSlots) (node : ChainNode) :
    (slots.add node).size = slots.size + 1 := by
  simp [add]

@[simp] theorem size_vacate (slots : LeafSlots) (id : LeafId) :
    (slots.vacate id).size = slots.size := by
  simp [vacate]

/-- There is nothing behind the last slot. -/
theorem get?_eq_none_of_size_le {slots : LeafSlots} {id : LeafId} (h : slots.size ≤ id) :
    slots.get? id = none := by
  simp [get?, h]

/-- A leaf is in one of the slots. -/
theorem lt_size_of_get?_eq_some {slots : LeafSlots} {id : LeafId} {node : ChainNode}
    (h : slots.get? id = some node) : id < slots.size := by
  rcases Nat.lt_or_ge id slots.size with hlt | hge
  · exact hlt
  · simp [get?_eq_none_of_size_le hge] at h

/-- A change reaches its target and no other slot. -/
theorem get?_update (slots : LeafSlots) (target : Option LeafId) (f : ChainNode → ChainNode)
    (id : LeafId) :
    (slots.update target f).get? id =
      if target = some id then (slots.get? id).map f else slots.get? id := by
  cases target with
  | none => simp [update]
  | some i =>
    by_cases h : i = id
    · subst h
      cases hs : slots[i]? with
      | none => simp [update, get?, Array.getElem?_modify, hs]
      | some slot => cases slot <;> simp [update, get?, Array.getElem?_modify, hs]
    · simp [update, get?, Array.getElem?_modify, h]

/-- A slot that is added comes last. -/
theorem get?_add (slots : LeafSlots) (node : ChainNode) (id : LeafId) :
    (slots.add node).get? id = if id = slots.size then some node else slots.get? id := by
  simp only [add, get?, Array.getElem?_push]
  split <;> simp

/-- Emptying a slot leaves all others as they are. -/
theorem get?_vacate (slots : LeafSlots) (target id : LeafId) :
    (slots.vacate target).get? id = if id = target then none else slots.get? id := by
  simp only [vacate, get?, Array.getElem?_setIfInBounds]
  grind

/-- Links to a leaf in front lead to smaller numbers. -/
def LinksBack (slots : LeafSlots) : Prop :=
  ∀ id node p, slots.get? id = some node → node.previous = some p → p < id

theorem linksBack_empty : LinksBack #[] := by
  intro id node p h
  simp [get?] at h

/-- A change that gives no leaf a new link to one in front keeps the links leading back. -/
theorem LinksBack.update {slots : LeafSlots} (h : slots.LinksBack) (target : Option LeafId)
    (f : ChainNode → ChainNode) (hf : ∀ n p, (f n).previous = some p → n.previous = some p) :
    (slots.update target f).LinksBack := by
  intro id node p hget hp
  rw [get?_update] at hget
  split at hget
  next =>
    obtain ⟨n, hn, rfl⟩ := Option.map_eq_some_iff.1 hget
    exact h id n p hn (hf n p hp)
  next => exact h id node p hget hp

/-- A new leaf that is linked to one in front keeps the links leading back. -/
theorem LinksBack.add {slots : LeafSlots} (h : slots.LinksBack) (node : ChainNode)
    (hnode : ∀ p, node.previous = some p → p < slots.size) : (slots.add node).LinksBack := by
  intro id n p hget hp
  rw [get?_add] at hget
  split at hget
  next hid =>
    cases hget
    exact hid ▸ hnode p hp
  next => exact h id n p hget hp

/-- So does a leaf less. -/
theorem LinksBack.vacate {slots : LeafSlots} (h : slots.LinksBack) (target : LeafId) :
    (slots.vacate target).LinksBack := by
  intro id n p hget hp
  rw [get?_vacate] at hget
  split at hget
  next => simp at hget
  next => exact h id n p hget hp

end LeafSlots

/-! ## Chains -/

/-- Linked leaves in document order. -/
structure LeafChain where
  /-- All slots used since the chain was last empty. -/
  slots : LeafSlots := #[]
  /-- Where the chain begins. -/
  first : Option LeafId := none
  /-- Where the chain ends, and the next leaf is linked. -/
  last : Option LeafId := none
  /-- The number of leaves. -/
  size : Nat := 0
  /-- Links to a leaf in front lead to smaller numbers. -/
  linksBack : slots.LinksBack := by exact LeafSlots.linksBack_empty
  /-- The end of the chain is a slot. -/
  last_lt : ∀ id, last = some id → id < slots.size := by simp

namespace LeafChain

/-- The chain without leaves. -/
def empty : LeafChain := {}

/-- The leaf with a number, and its links. -/
def get? (chain : LeafChain) (id : LeafId) : Option ChainNode := chain.slots.get? id

/-- The number of the leaf in front of a leaf. -/
def previous? (chain : LeafChain) (id : LeafId) : Option LeafId := chain.get? id >>= (·.previous)

/-- The number of the leaf after a leaf. -/
def next? (chain : LeafChain) (id : LeafId) : Option LeafId := chain.get? id >>= (·.next)

/-- The leaves with their numbers, in document order. -/
def entries (chain : LeafChain) : List (LeafId × ChainNode) :=
  (List.range chain.slots.size).filterMap fun id => (chain.get? id).map (id, ·)

/-- The number of the first leaf for which `p` holds. -/
def findId? (chain : LeafChain) (p : Leaf → Bool) : Option LeafId :=
  (chain.entries.find? fun e => p e.2.leaf).map (·.1)

/-- The leaf that has an offset strictly inside it. -/
def leafContaining? (chain : LeafChain) (offset : Nat) : Option LeafId :=
  chain.findId? (·.span.strictlyContains offset)

/-- The leaf that starts at an offset. -/
def leafStartingAt? (chain : LeafChain) (offset : Nat) : Option LeafId :=
  chain.findId? (·.span.start == offset)

/-- The link to the leaf in front leads to a smaller number. -/
theorem previous_lt (chain : LeafChain) {id p : LeafId} {node : ChainNode}
    (h : chain.get? id = some node) (hp : node.previous = some p) : p < id :=
  chain.linksBack id node p h hp

/-! ## Adding a leaf -/

/-- The number that the next leaf gets. -/
def nextId (chain : LeafChain) : LeafId := chain.slots.size

/-- Adds a leaf at the end of the chain; its number is `chain.nextId`. -/
def push (chain : LeafChain) (leaf : Leaf) : LeafChain where
  slots :=
    (chain.slots.update chain.last (·.linkNext chain.nextId)).add ⟨leaf, chain.last, none⟩
  first := chain.first.or (some chain.nextId)
  last := some chain.nextId
  size := chain.size + 1
  linksBack :=
    (chain.linksBack.update chain.last (·.linkNext chain.nextId) (by simp)).add
      ⟨leaf, chain.last, none⟩ (by simpa using chain.last_lt)
  last_lt id h := by
    cases h
    simp [nextId]

/-- What a slot holds after adding a leaf. -/
theorem get?_push (chain : LeafChain) (leaf : Leaf) (id : LeafId) :
    (chain.push leaf).get? id =
      if id = chain.nextId then some ⟨leaf, chain.last, none⟩
      else if chain.last = some id then (chain.get? id).map (·.linkNext chain.nextId)
      else chain.get? id := by
  simp only [push, get?, LeafSlots.get?_add, LeafSlots.size_update, LeafSlots.get?_update]
  rfl

/-! ## Disposing of a leaf -/

/-- Takes out the leaf `id`, which the node is; its neighbours lose their links to it. -/
def remove (chain : LeafChain) (id : LeafId) (node : ChainNode)
    (h : chain.get? id = some node) : LeafChain where
  slots :=
    ((chain.slots.vacate id).update node.previous (·.cutNext)).update node.next (·.cutPrevious)
  first := if chain.first = some id then node.next else chain.first
  last := if chain.last = some id then node.previous else chain.last
  size := chain.size - 1
  linksBack :=
    ((chain.linksBack.vacate id).update node.previous (·.cutNext) (by simp)).update node.next
      (·.cutPrevious) (by simp)
  last_lt i hi := by
    simp only [LeafSlots.size_update, LeafSlots.size_vacate]
    split at hi
    next =>
      exact Nat.lt_trans (chain.previous_lt h hi) (LeafSlots.lt_size_of_get?_eq_some h)
    next => exact chain.last_lt i hi

/-- What a slot holds after taking out a leaf. -/
theorem get?_remove (chain : LeafChain) (id : LeafId) (node : ChainNode)
    (h : chain.get? id = some node) (i : LeafId) :
    (chain.remove id node h).get? i =
      let kept := if i = id then none else chain.get? i
      let cut := if node.previous = some i then kept.map (·.cutNext) else kept
      if node.next = some i then cut.map (·.cutPrevious) else cut := by
  simp only [remove, get?, LeafSlots.get?_update, LeafSlots.get?_vacate]

/-- Disposes of a leaf and gives it back with the links that it had. A number without a leaf gives
none, and the chain stays as it is. -/
def dispose (chain : LeafChain) (id : LeafId) : Option ChainNode × LeafChain :=
  match h : chain.get? id with
  | some node => (some node, chain.remove id node h)
  | none => (none, chain)

/-- Disposing gives back what was in the slot. -/
theorem dispose_fst (chain : LeafChain) (id : LeafId) : (chain.dispose id).1 = chain.get? id := by
  unfold dispose
  split <;> simp_all

/-- There is nothing to dispose of in an empty slot. -/
theorem dispose_of_get?_eq_none {chain : LeafChain} {id : LeafId} (h : chain.get? id = none) :
    chain.dispose id = (none, chain) := by
  unfold dispose
  split <;> simp_all

end LeafChain

end NotebookLayout
