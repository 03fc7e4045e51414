import NotebookLayout.Proofs.Leaf.Cover
import NotebookLayout.Proofs.Span

/-!
# Read-only leaves

A leaf is read-only if it overlaps one of the spans that the layout is told of. For spans with bytes
that means that it has a byte of one of them. An empty span has no byte to share, and yet it makes a
leaf read-only if it lies inside it:

- `readOnly_leaf_iff`: what makes the leaf of a token read-only;
- `readOnly_build_iff`: which leaves of a text are, and when these are the ones with a byte in one
  of the spans;
- `readOnly_build_empty_span`: they are not always.
-/

namespace NotebookLayout.Layout

/-- The leaf of a token with a byte or more is read-only if it shares one with one of the spans, or
if one of them is empty and inside it. -/
theorem readOnly_leaf_iff {layout : Layout} {token : Token} {gap : Gap}
    (hsome : token.span.start < token.span.stop) :
    (layout.leaf token gap).readOnly = true ↔
      (∃ r ∈ layout.readOnly, r.Shares token.span) ∨
        ∃ r ∈ layout.readOnly, r.EmptyInside token.span := by
  have hnot : ∀ r, ¬token.span.EmptyInside r := fun r h =>
    Nat.not_le.2 hsome (Span.emptyInside_iff.1 h).1
  calc (layout.leaf token gap).readOnly = true
    _ ↔ ∃ r ∈ layout.readOnly, r.overlaps token.span = true := List.any_eq_true
    _ ↔ ∃ r ∈ layout.readOnly, r.Shares token.span ∨ r.EmptyInside token.span := by
      simp only [Span.overlaps_iff, hnot, or_false]
    _ ↔ _ := by
      simp only [and_or_left, exists_or]

/-- A leaf of a text is read-only if it has a byte of one of the layout's read-only spans, or if one
of these is empty, or runs backwards, with both its edges inside the leaf. So the read-only leaves
are those with a byte of a read-only span, but for the leaves that have none and such a span
inside. -/
theorem readOnly_build_iff (layout : Layout) (t : Text) {e : LeafId × Leaf}
    (h : e ∈ (layout.build (Token.ofText t)).1.leaves) :
    let shares := ∃ r ∈ layout.readOnly, ∃ offset, offset ∈ e.2.span ∧ offset ∈ r
    let surrounds := ∃ r ∈ layout.readOnly, r.stop ≤ r.start ∧
      e.2.span.strictlyContains r.start = true ∧ e.2.span.strictlyContains r.stop = true
    (e.2.readOnly = true ↔ shares ∨ surrounds) ∧
      ((e.2.readOnly = true ↔ shares) ↔ (surrounds → shares)) := by
  intro shares surrounds
  obtain ⟨token, gap, hleaf, hsome⟩ := exists_token_of_mem_leaves h
  have hflag : e.2.readOnly = true ↔ shares ∨ surrounds := by
    calc e.2.readOnly = true
      _ ↔ (∃ r ∈ layout.readOnly, r.Shares e.2.span) ∨
          ∃ r ∈ layout.readOnly, r.EmptyInside e.2.span := by
        rw [hleaf]
        exact readOnly_leaf_iff hsome
      _ ↔ shares ∨ surrounds := by
        simp only [shares, surrounds, Span.Shares, Span.EmptyInside, Span.isEmpty_iff, and_comm]
  refine ⟨hflag, ?_⟩
  rw [hflag]
  exact ⟨fun hiff hin => hiff.1 (Or.inr hin), fun himp => ⟨fun hor => hor.elim id himp, Or.inl⟩⟩

/-- One span is empty inside the first leaf, of which another one has a byte; two more touch the
second leaf at its edges, one of them empty. -/
theorem readOnly_build_iff_edges :
    let t := "ab cd".toList
    let layout : Layout := ⟨(Document.ofText t).metrics, 4, [⟨1, 1⟩, ⟨0, 1⟩, ⟨2, 3⟩, ⟨5, 5⟩]⟩
    let first : LeafId × Leaf := (0, layout.leaf ⟨.word, "ab".toList, ⟨0, 2⟩⟩ (.empty 0))
    let second : LeafId × Leaf :=
      (1, layout.leaf ⟨.word, "cd".toList, ⟨3, 5⟩⟩ (.measure 4 2 " ".toList))
    (first ∈ (layout.build (Token.ofText t)).1.leaves ∧ first.2.readOnly = true) ∧
      second ∈ (layout.build (Token.ofText t)).1.leaves ∧ ¬second.2.readOnly = true := by
  intro t layout first second
  have hfirst : first ∈ (layout.build (Token.ofText t)).1.leaves := by decide +kernel
  have hsecond : second ∈ (layout.build (Token.ofText t)).1.leaves := by decide +kernel
  refine ⟨⟨hfirst, ?_⟩, hsecond, ?_⟩
  · refine (readOnly_build_iff layout t hfirst).1.2 (Or.inl ⟨⟨0, 1⟩, by simp [layout], 0, ?_⟩)
    decide
  · rw [(readOnly_build_iff layout t hsecond).1]
    rintro (⟨r, hr, hshares⟩ | ⟨r, hr, hsurrounds⟩)
    · have hnone : ∀ r ∈ layout.readOnly, ¬Span.Shares second.2.span r := by decide
      exact hnone r hr hshares
    · revert r
      decide

/-- An empty span does make a leaf read-only, though it has no byte that the leaf could have. -/
theorem readOnly_build_empty_span :
    let t := "abc".toList
    let layout : Layout := ⟨(Document.ofText t).metrics, 4, [⟨1, 1⟩]⟩
    ∃ e ∈ (layout.build (Token.ofText t)).1.leaves, e.2.readOnly = true ∧
      ∀ r ∈ layout.readOnly, r.start ≤ r.stop ∧ ¬∃ offset, offset ∈ e.2.span ∧ offset ∈ r := by
  intro t layout
  change ∃ e ∈ (layout.build (Token.ofText t)).1.leaves, e.2.readOnly = true ∧
    ∀ r ∈ layout.readOnly, r.start ≤ r.stop ∧ ¬Span.Shares e.2.span r
  decide +kernel

end NotebookLayout.Layout
