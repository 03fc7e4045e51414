import NotebookLayout.Proofs.Leaf.Cover
import NotebookLayout.Proofs.Span

/-!
# Looking up an offset

A chain finds the leaf that starts at an offset, and the leaf that has an offset inside it and not
at its edge, each by going through the leaves up to the first that fits. In the chain of a text
there is no choice to make, since every byte lies in one leaf or in one gap:

- `leavesAt` and `gapsAt`: all leaves and all gaps that hold an offset;
- `findId?_eq_of_imp`: a search that fits leaves at an offset alone need only look at these;
- `Covers.countP_mem`: leaves and gaps that cover a text hold each of its bytes once;
- `Covers.leavesAt_gapsAt`: one leaf or one gap holds an offset in the text;
- `build_lookup`: so an offset in a text is the start of a leaf, inside a leaf or in a gap.
-/

namespace NotebookLayout

open Text

namespace LeafChain

/-- The leaves that hold an offset, with their numbers. -/
def leavesAt (chain : LeafChain) (offset : Nat) : List (LeafId × Leaf) :=
  chain.leaves.filter (offset ∈ ·.2.span)

/-- The gaps that hold an offset, out of those in front of the leaves and the one after the last. -/
def gapsAt (chain : LeafChain) (trailing : Gap) (offset : Nat) : List Gap :=
  (chain.leaves.map (·.2.gap) ++ [trailing]).filter (offset ∈ ·.span)

/-! ## Searching the leaves -/

/-- Leaves are looked up without their links. -/
theorem findId?_eq_map_find? (chain : LeafChain) (p : Leaf → Bool) :
    chain.findId? p = (chain.leaves.find? (p ·.2)).map (·.1) := by
  rw [leaves, List.find?_map, Option.map_map]
  rfl

/-- If only leaves that hold an offset fit, the search need not look at any other. -/
theorem findId?_eq_of_imp {chain : LeafChain} {p : Leaf → Bool} {offset : Nat}
    (h : ∀ e ∈ chain.leaves, p e.2 = true → offset ∈ e.2.span) :
    chain.findId? p = ((chain.leavesAt offset).find? (p ·.2)).map (·.1) := by
  have hsame : chain.leaves.filter (p ·.2) = (chain.leavesAt offset).filter (p ·.2) := by
    rw [leavesAt, List.filter_filter]
    refine List.filter_congr fun e he => ?_
    cases hp : p e.2 with
    | true => simp [h e he hp]
    | false => simp
  rw [findId?_eq_map_find?, ← List.head?_filter, ← List.head?_filter, hsame]

variable {chain : LeafChain} {offset : Nat}

/-- A leaf has no offset inside it that it does not hold. -/
theorem leafContaining?_eq (chain : LeafChain) (offset : Nat) :
    chain.leafContaining? offset =
      ((chain.leavesAt offset).find? (·.2.span.strictlyContains offset)).map (·.1) := by
  refine findId?_eq_of_imp fun e _ hinside => ?_
  simp only [Span.strictlyContains, Bool.and_eq_true, decide_eq_true_iff] at hinside
  exact Span.mem_iff.2 ⟨Nat.le_of_lt hinside.1, hinside.2⟩

/-- A leaf that is not empty holds the offset at which it starts. -/
theorem leafStartingAt?_eq (hsome : ∀ e ∈ chain.leaves, e.2.span.start < e.2.span.stop)
    (offset : Nat) :
    chain.leafStartingAt? offset =
      ((chain.leavesAt offset).find? (·.2.span.start == offset)).map (·.1) := by
  refine findId?_eq_of_imp fun e he hstart => ?_
  obtain rfl : e.2.span.start = offset := beq_iff_eq.1 hstart
  exact Span.mem_iff.2 ⟨Nat.le_refl _, hsome e he⟩

end LeafChain

namespace Layout

/-! ## Leaves and gaps at an offset -/

/-- Of leaves and gaps that cover a part of a text, one holds each offset in the part, and none any
other offset. -/
theorem Covers.countP_mem {tabSize : Nat} {trailing : Gap} {a b : Text} {leaves : List Leaf}
    (h : Covers tabSize trailing a leaves b) (offset : Nat) :
    leaves.countP (offset ∈ ·.span) +
        (leaves.map (·.gap) ++ [trailing]).countP (offset ∈ ·.span) =
      if byteSize a ≤ offset ∧ offset < byteSize (a ++ b) then 1 else 0 := by
  induction leaves generalizing a b with
  | nil =>
    obtain rfl : trailing = _ := h
    simp [Gap.span_measure, Span.mem_iff]
  | cons leaf rest ih =>
    obtain ⟨w, v, b', rfl, hgap, hspan, hrest⟩ := h
    have hgapspan : leaf.gap.span = ⟨byteSize a, byteSize (a ++ w)⟩ := by
      rw [hgap, Gap.span_measure, byteSize_append]
    have ih := ih hrest
    simp only [List.map_cons, List.cons_append, List.countP_cons, decide_eq_true_iff, hgapspan,
      hspan, Span.mem_iff, byteSize_append] at ih ⊢
    -- The gap, the leaf and what comes after them lie side by side.
    split_ifs at ih ⊢ <;> omega

/-- If the leaves and gaps of a chain cover a text, one leaf or one gap holds an offset in it, and
neither a leaf nor a gap holds an offset beyond it. -/
theorem Covers.leavesAt_gapsAt {tabSize : Nat} {trailing : Gap} {chain : LeafChain} {t : Text}
    (h : Covers tabSize trailing [] (chain.leaves.map (·.2)) t) (offset : Nat) :
    (offset < byteSize t ∧ (∃ e, chain.leavesAt offset = [e]) ∧
        chain.gapsAt trailing offset = []) ∨
      (offset < byteSize t ∧ chain.leavesAt offset = [] ∧
        ∃ gap, chain.gapsAt trailing offset = [gap]) ∨
      (byteSize t ≤ offset ∧ chain.leavesAt offset = [] ∧ chain.gapsAt trailing offset = []) := by
  have hcount : (chain.leavesAt offset).length + (chain.gapsAt trailing offset).length =
      if offset < byteSize t then 1 else 0 := by
    have hcount := h.countP_mem offset
    rw [List.countP_map, List.map_map] at hcount
    rw [LeafChain.leavesAt, LeafChain.gapsAt, ← List.countP_eq_length_filter,
      ← List.countP_eq_length_filter]
    simpa [Function.comp_def] using hcount
  by_cases hlt : offset < byteSize t
  · rw [if_pos hlt] at hcount
    rcases Nat.add_eq_one_iff.1 hcount with ⟨hleaves, hgap⟩ | ⟨hleaf, hgaps⟩
    · exact Or.inr (Or.inl ⟨hlt, List.length_eq_zero_iff.1 hleaves, List.length_eq_one_iff.1 hgap⟩)
    · exact Or.inl ⟨hlt, List.length_eq_one_iff.1 hleaf, List.length_eq_zero_iff.1 hgaps⟩
  · rw [if_neg hlt] at hcount
    obtain ⟨hleaves, hgaps⟩ := Nat.add_eq_zero_iff.1 hcount
    exact Or.inr (Or.inr ⟨Nat.not_lt.1 hlt, List.length_eq_zero_iff.1 hleaves,
      List.length_eq_zero_iff.1 hgaps⟩)

/-- An offset in a text is where a leaf of its chain starts, or inside a leaf and not at its edge,
or in a gap, and only one of these. The leaf that is found is the only one that holds the offset,
and a gap that holds it is the only one. Beyond the text, there is neither a leaf nor a gap. -/
theorem build_lookup (layout : Layout) (t : Text) (offset : Nat) :
    let chain := (layout.build (Token.ofText t)).1
    let trailing := (layout.build (Token.ofText t)).2
    (offset < byteSize t →
      ((∃ id, chain.leafStartingAt? offset = some id) ∧ chain.leafContaining? offset = none ∧
          chain.gapsAt trailing offset = []) ∨
        (chain.leafStartingAt? offset = none ∧ (∃ id, chain.leafContaining? offset = some id) ∧
          chain.gapsAt trailing offset = []) ∨
        (chain.leafStartingAt? offset = none ∧ chain.leafContaining? offset = none ∧
          ∃ gap, chain.gapsAt trailing offset = [gap])) ∧
      (∀ id, chain.leafStartingAt? offset = some id ∨ chain.leafContaining? offset = some id →
        ∃ leaf, chain.leavesAt offset = [(id, leaf)]) ∧
      (byteSize t ≤ offset →
        chain.leafStartingAt? offset = none ∧ chain.leafContaining? offset = none ∧
          chain.gapsAt trailing offset = []) := by
  intro chain trailing
  have hcovers : Covers layout.tabSize trailing [] (chain.leaves.map (·.2)) t :=
    layout.covers_build t
  have hsome : ∀ e ∈ chain.leaves, e.2.span.start < e.2.span.stop := fun e he => by
    obtain ⟨token, before, hleaf, hlt⟩ := exists_token_of_mem_leaves he
    rw [hleaf]
    exact hlt
  rw [chain.leafContaining?_eq, LeafChain.leafStartingAt?_eq hsome]
  rcases hcovers.leavesAt_gapsAt offset with
    ⟨hlt, ⟨e, hleaf⟩, hgaps⟩ | ⟨hlt, hleaves, hgap⟩ | ⟨hge, hleaves, hgaps⟩
  · -- A leaf holds the offset: at its start or behind that.
    have hmem : e ∈ chain.leavesAt offset := by rw [hleaf]; exact List.mem_singleton_self e
    have hholds : offset ∈ e.2.span := of_decide_eq_true (List.mem_filter.1 hmem).2
    obtain ⟨hle, hstop⟩ := Span.mem_iff.1 hholds
    rw [hleaf]
    refine ⟨fun _ => ?_, ?_, fun hge => absurd hlt (Nat.not_lt.2 hge)⟩
    · rcases Nat.eq_or_lt_of_le hle with heq | hinside
      · exact Or.inl (by simp [heq, Span.strictlyContains, hgaps])
      · exact Or.inr (Or.inl (by simp [Nat.ne_of_lt hinside, Span.strictlyContains, hinside, hstop,
          hgaps]))
    · rintro id (hid | hid)
      all_goals
        obtain ⟨found, hfound, rfl⟩ := Option.map_eq_some_iff.1 hid
        rw [List.mem_singleton.1 (List.mem_of_find?_eq_some hfound)]
        exact ⟨e.2, rfl⟩
  · rw [hleaves]
    exact ⟨fun _ => Or.inr (Or.inr ⟨rfl, rfl, hgap⟩), by simp,
      fun hge => absurd hlt (Nat.not_lt.2 hge)⟩
  · rw [hleaves]
    exact ⟨fun hlt => absurd hlt (Nat.not_lt.2 hge), by simp, fun _ => ⟨rfl, rfl, hgaps⟩⟩

end Layout

end NotebookLayout
