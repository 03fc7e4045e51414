import Mathlib.Data.Nat.Find
import Mathlib.Order.Bounds.Basic
import NotebookLayout.Document.Basic

/-!
# Previews of spans

A text that has too many bytes for a preview is cut, not always right at the limit, but where a
character ends.

- `IsBoundary`: the offsets at which a text can be cut;
- `exists_of_isBoundary`: between two of them lies a part of the text;
- `isPrefix_takeWithin`: the part that is kept is the longest one within the limit;
- `isGreatest_takeWithin`: so it ends at the last boundary within the limit, which is where going
  back from the limit byte by byte first finds one (`findGreatest_isBoundary`);
- `le_byteSize_takeWithin_add`: that is no more than three bytes back;
- `Document.preview?_eq`: what a preview is.
-/

namespace NotebookLayout

namespace Text

/-! ## Boundaries -/

/-- A character begins at the offset, or the text ends there. -/
def IsBoundary (t : Text) (offset : Nat) : Prop := ∃ a, a <+: t ∧ byteSize a = offset

variable {t a b q : Text} {n start stop : Nat}

/-- A text can be split at its boundaries alone. -/
theorem isBoundary_iff : IsBoundary t n ↔ (splitAt? n t).isSome := by
  rw [Option.isSome_iff_exists]
  constructor
  · rintro ⟨a, ⟨b, rfl⟩, rfl⟩
    exact ⟨(a, b), splitAt?_append a b⟩
  · rintro ⟨⟨a, b⟩, h⟩
    obtain ⟨rfl, hsize⟩ := splitAt?_eq_some_iff.1 h
    exact ⟨a, List.prefix_append a b, hsize⟩

instance (t : Text) : DecidablePred (IsBoundary t) := fun _ =>
  decidable_of_iff _ isBoundary_iff.symm

theorem isBoundary_zero (t : Text) : IsBoundary t 0 := ⟨[], List.nil_prefix, rfl⟩

/-- Of two beginnings of a text, the one with fewer bytes begins the other. -/
theorem isPrefix_of_byteSize_le (ha : a <+: t) (hb : b <+: t) (hle : byteSize a ≤ byteSize b) :
    a <+: b := by
  rcases List.prefix_or_prefix_of_prefix ha hb with h | ⟨rest, rfl⟩
  · exact h
  · -- There are no bytes for what `a` has beyond `b`.
    rw [byteSize_append] at hle
    have hrest : rest = [] := byteSize_eq_zero_iff.1 (by omega)
    simp only [hrest, List.append_nil, List.prefix_rfl]

/-- Between two boundaries lies a part of the text. -/
theorem exists_of_isBoundary (hle : start ≤ stop) (hstart : IsBoundary t start)
    (hstop : IsBoundary t stop) :
    ∃ a w b, t = a ++ w ++ b ∧ byteSize a = start ∧ start + byteSize w = stop := by
  obtain ⟨a, ha, rfl⟩ := hstart
  obtain ⟨u, hu, rfl⟩ := hstop
  obtain ⟨w, rfl⟩ := isPrefix_of_byteSize_le ha hu hle
  obtain ⟨b, rfl⟩ := hu
  exact ⟨a, w, b, rfl, rfl, (byteSize_append a w).symm⟩

/-! ## The longest part within a limit -/

/-- What is taken is the beginning of the text. -/
theorem takeWithin_isPrefix (n : Nat) (t : Text) : takeWithin n t <+: t :=
  ⟨dropWithin n t, takeWithin_append_dropWithin n t⟩

/-- Whatever begins the text and fits begins the part that is kept. -/
theorem isPrefix_takeWithin (hq : q <+: t) (hle : byteSize q ≤ n) : q <+: takeWithin n t := by
  rcases List.prefix_or_prefix_of_prefix hq (takeWithin_isPrefix n t) with h | ⟨rest, rfl⟩
  · exact h
  cases rest with
  | nil => simp only [List.append_nil, List.prefix_rfl]
  | cons c rest =>
    -- The character `c` comes after the part that is kept, so there was no room for it.
    obtain ⟨b, hb⟩ := hq
    have hdrop : dropWithin n t = c :: (rest ++ b) := by
      have hsplit := (takeWithin_append_dropWithin n t).trans hb.symm
      rw [List.append_assoc] at hsplit
      exact List.append_cancel_left hsplit
    have hlt := takeWithin_maximal hdrop
    rw [byteSize_append, byteSize_cons] at hle
    omega

/-- The part that is kept ends at the last boundary within the limit. -/
theorem isGreatest_takeWithin (n : Nat) (t : Text) :
    IsGreatest {k | k ≤ n ∧ IsBoundary t k} (byteSize (takeWithin n t)) := by
  constructor
  · exact ⟨byteSize_takeWithin_le n t, takeWithin n t, takeWithin_isPrefix n t, rfl⟩
  · rintro k ⟨hle, q, hq, rfl⟩
    obtain ⟨rest, hrest⟩ := isPrefix_takeWithin hq hle
    rw [← hrest, byteSize_append]
    exact Nat.le_add_right _ _

/-- Going back from the limit one byte at a time, the end of that part is the first boundary. -/
theorem findGreatest_isBoundary (n : Nat) (t : Text) :
    Nat.findGreatest (IsBoundary t) n = byteSize (takeWithin n t) := by
  obtain ⟨⟨hle, hboundary⟩, hgreatest⟩ := isGreatest_takeWithin n t
  apply Nat.le_antisymm
  · -- The way back ends at a boundary, since zero is one.
    have hfound := Nat.findGreatest_spec (Nat.zero_le n) (isBoundary_zero t)
    exact hgreatest ⟨Nat.findGreatest_le n, hfound⟩
  · exact Nat.le_findGreatest hle hboundary

/-- As no character has more than four bytes, at most three bytes of room are left. -/
theorem le_byteSize_takeWithin_add (h : n < byteSize t) : n ≤ byteSize (takeWithin n t) + 3 := by
  cases hdrop : dropWithin n t with
  | nil =>
    -- Then all of the text would fit.
    have hall := takeWithin_append_dropWithin n t
    have hle := byteSize_takeWithin_le n t
    rw [hdrop, List.append_nil] at hall
    rw [hall] at hle
    omega
  | cons c rest =>
    have hlt := takeWithin_maximal hdrop
    have hsize := c.utf8Size_le_four
    omega

end Text

namespace Document

open Text

/-- A span that does not run backwards and lies between boundaries of the text has a preview for
every limit. If the text of the span has no more bytes than the limit, it is its own preview. Any
other is cut at the last boundary within the limit, with three dots behind it: what is kept is the
longest part from its start that does not go beyond the limit, and ends at the first boundary that
going back from the limit byte by byte finds, at most three bytes in front of it. -/
theorem preview?_eq (t : Text) {span : Span} (hle : span.start ≤ span.stop)
    (hstart : IsBoundary t span.start) (hstop : IsBoundary t span.stop) (max : Nat) :
    let doc := ofText t
    ∃ w, doc.slice? span = some w ∧ byteSize w = span.size ∧
      (byteSize w ≤ max → doc.preview? span max = some w) ∧
      (max < byteSize w → ∃ p, doc.preview? span max = some (p ++ ['.', '.', '.']) ∧
        (p <+: w ∧ byteSize p ≤ max ∧ ∀ q, q <+: w → byteSize q ≤ max → q <+: p) ∧
        byteSize p = Nat.findGreatest (IsBoundary w) max ∧
        max - 3 ≤ byteSize p) := by
  intro doc
  -- Cut at the edges of the span, the text is `a ++ w ++ b`, with `w` in the span.
  obtain ⟨a, w, b, rfl, hbefore, hsize⟩ := exists_of_isBoundary hle hstart hstop
  have hslice : doc.slice? span = some w := by
    rw [slice?, ← hsize, ← hbefore]
    exact slice?_append a w b
  have hpreview : doc.preview? span max = some (shorten max w) := by
    rw [preview?, hslice, Option.map_some]
  refine ⟨w, hslice, ?size, ?short, ?long⟩
  case size =>
    rw [Span.size]
    omega
  case short =>
    intro hfits
    rw [hpreview, shorten, if_neg (Nat.not_lt.2 hfits)]
  case long =>
    intro hlong
    refine ⟨takeWithin max w, ?_, ⟨takeWithin_isPrefix max w, byteSize_takeWithin_le max w, ?_⟩,
      (findGreatest_isBoundary max w).symm, ?_⟩
    · rw [hpreview, shorten, if_pos hlong]
      rfl
    · exact fun q hq hle => isPrefix_takeWithin hq hle
    · exact Nat.sub_le_iff_le_add.2 (le_byteSize_takeWithin_add hlong)

/-- Of two characters of three bytes and one of four, the last one lacks a byte of room. -/
theorem preview?_eq_four_bytes :
    let t := "x日本😀z".toList
    let span : Span := ⟨1, 12⟩
    span.start ≤ span.stop ∧ IsBoundary t span.start ∧ IsBoundary t span.stop ∧
      ∃ p, (ofText t).preview? span 9 = some (p ++ ['.', '.', '.']) ∧ byteSize p = 6 := by
  intro t span
  have hle : span.start ≤ span.stop := by decide
  have hstart : IsBoundary t span.start := by decide +kernel
  have hstop : IsBoundary t span.stop := by decide +kernel
  obtain ⟨w, hslice, hsize, -, hlong⟩ := preview?_eq t hle hstart hstop 9
  have hlt : 9 < byteSize w := by
    rw [hsize]
    decide
  obtain ⟨p, hpreview, -, hcut, -⟩ := hlong hlt
  have hw : w = "日本😀z".toList := by
    apply Option.some.inj
    rw [← hslice]
    decide +kernel
  rw [hw] at hcut
  exact ⟨hle, hstart, hstop, p, hpreview, hcut.trans (by decide +kernel)⟩

end Document

end NotebookLayout
