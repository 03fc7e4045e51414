import NotebookLayout.Span

/-!
# Spans as sets of offsets

A span holds the offsets of its bytes, but the tests on spans look at nothing but their edges. This
file says what the edges tell of the offsets:

- `Shares`: two spans have a byte in common;
- `shares_iff`: this is so just if neither is empty and each starts in front of the other's end;
- `overlaps_iff`: the overlap test finds such spans, and an empty span inside the other one as well;
- `moved`: the span of the same bytes further on.
-/

namespace NotebookLayout.Span

/-! ## Offsets in a span -/

/-- An offset is in a span if the byte there is one of the span's. -/
instance : Membership Nat Span := ⟨fun s offset => s.start ≤ offset ∧ offset < s.stop⟩

/-- A span holds its first byte and not the byte behind its last one. -/
theorem mem_iff {s : Span} {offset : Nat} : offset ∈ s ↔ s.start ≤ offset ∧ offset < s.stop :=
  Iff.rfl

instance (s : Span) (offset : Nat) : Decidable (offset ∈ s) := inferInstanceAs (Decidable (_ ∧ _))

/-! ## Two spans -/

/-- The spans have a byte in common. -/
def Shares (s t : Span) : Prop := ∃ offset, offset ∈ s ∧ offset ∈ t

/-- Two spans share a byte if neither is empty and each starts before the other ends. -/
theorem shares_iff {s t : Span} :
    s.Shares t ↔ (s.start < s.stop ∧ t.start < t.stop) ∧ s.start < t.stop ∧ t.start < s.stop := by
  constructor
  · rintro ⟨offset, hs, ht⟩
    rw [mem_iff] at hs ht
    omega
  · rintro ⟨⟨hs, ht⟩, hst, hts⟩
    -- The later one of the two starts is in both spans.
    exact ⟨max s.start t.start, mem_iff.2 (by omega), mem_iff.2 (by omega)⟩

instance (s t : Span) : Decidable (s.Shares t) := decidable_of_iff _ shares_iff.symm

/-- The span has no byte and lies inside the other one, off its edges. -/
def EmptyInside (s t : Span) : Prop :=
  s.isEmpty = true ∧ t.strictlyContains s.start = true ∧ t.strictlyContains s.stop = true

instance (s t : Span) : Decidable (s.EmptyInside t) := inferInstanceAs (Decidable (_ ∧ _))

/-- An empty span is inside another if it is at neither of its edges. -/
theorem emptyInside_iff {s t : Span} :
    s.EmptyInside t ↔ s.stop ≤ s.start ∧ t.start < s.stop ∧ s.start < t.stop := by
  simp only [EmptyInside, isEmpty_iff, strictlyContains, Bool.and_eq_true, decide_eq_true_iff]
  omega

/-- The test that compares starts with ends finds spans with a byte in common, and besides these an
empty span that lies inside the other. -/
theorem overlaps_iff {s t : Span} :
    s.overlaps t = true ↔ s.Shares t ∨ s.EmptyInside t ∨ t.EmptyInside s := by
  simp only [overlaps, Bool.and_eq_true, decide_eq_true_iff, shares_iff, emptyInside_iff]
  omega

/-! ## Moving a span -/

/-- The span `bytes` further on. -/
def moved (bytes : Nat) (span : Span) : Span := ⟨span.start + bytes, span.stop + bytes⟩

@[simp] theorem size_moved (bytes : Nat) (span : Span) :
    (span.moved bytes).size = span.size := Nat.add_sub_add_right _ _ _

end NotebookLayout.Span
