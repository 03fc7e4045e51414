import Mathlib.Data.List.DropRight
import NotebookLayout.Text.Blank

/-!
# What trimming leaves

A text is trimmed by characters with a property, most often by blanks.

- `dropEndWhile_eq_iff`: what is left is followed by such characters alone, and does not end with
  one;
- `IsTrimmed`: the text neither begins nor ends with a blank;
- `isTrimmed_trim` and `IsTrimmed.trim_eq`: trimming gives such texts, and keeps them;
- `IsTrimmed.trimEnd_of_append`: the beginning of such a text need only be trimmed at its end.
-/

namespace NotebookLayout.Text

/-- What is left without the longest tail of characters with a property is the only part that is
followed by such characters alone and does not end with one. -/
theorem dropEndWhile_eq_iff {p : Char → Bool} {t u : Text} :
    dropEndWhile p t = u ↔
      ∃ v, t = u ++ v ∧ (∀ c ∈ v, p c = true) ∧ ∀ c ∈ u.getLast?, p c = false := by
  constructor
  · rintro rfl
    refine ⟨takeEndWhile p t, (dropEndWhile_append_takeEndWhile p t).symm,
      fun c hc => List.mem_rtakeWhile_imp hc, fun c hc => ?_⟩
    rw [dropEndWhile, List.getLast?_reverse] at hc
    have hnot := List.head?_dropWhile_not p t.reverse
    rw [hc] at hnot
    simpa using hnot
  · rintro ⟨v, rfl, hv, hu⟩
    have hv' : ∀ c ∈ v.reverse, p c = true := fun c hc => hv c (List.mem_reverse.1 hc)
    rw [dropEndWhile, List.reverse_append, List.dropWhile_append_of_pos hv']
    refine List.rdropWhile_eq_self_iff.2 fun hne hlast => ?_
    rw [hu _ (List.getLast?_eq_some_getLast hne)] at hlast
    exact absurd hlast (by simp)

/-- The text neither begins nor ends with a blank. -/
def IsTrimmed (t : Text) : Prop :=
  (∀ c ∈ t.head?, isBlank c = false) ∧ ∀ c ∈ t.getLast?, isBlank c = false

instance (t : Text) : Decidable (IsTrimmed t) :=
  -- Looks at one character at either end, not at all that there are.
  have : Decidable (∀ c ∈ t.head?, isBlank c = false) := Option.decidableForallMem t.head?
  have : Decidable (∀ c ∈ t.getLast?, isBlank c = false) := Option.decidableForallMem t.getLast?
  inferInstanceAs (Decidable (_ ∧ _))

/-- Trimming leaves no blank at either end. -/
theorem isTrimmed_trim (t : Text) : IsTrimmed (trim t) := by
  constructor
  · intro c hc
    obtain ⟨u, hu⟩ := List.head?_eq_some_iff.1 hc
    exact isBlank_head_trim hu
  · intro c hc
    obtain ⟨u, hu⟩ := List.getLast?_eq_some_iff.1 hc
    exact isBlank_getLast_trim hu

/-- A trimmed text is not trimmed any further. -/
theorem IsTrimmed.trim_eq {t : Text} (h : IsTrimmed t) : trim t = t := by
  have hstart : trimStart t = t := by
    cases t with
    | nil => rfl
    | cons c t => exact List.dropWhile_cons_of_neg (by simp [h.1 c rfl])
  rw [trim, hstart]
  exact dropEndWhile_eq_iff.2 ⟨[], (List.append_nil t).symm, by simp, h.2⟩

/-- Whatever follows it in a text that is trimmed, a part at the beginning has no blank in front. -/
theorem IsTrimmed.trimEnd_of_append {t u : Text} (h : IsTrimmed (t ++ u)) :
    IsTrimmed (trimEnd t) := by
  constructor
  · intro c hc
    obtain ⟨v, hv⟩ := trimEnd_isPrefix t
    refine h.1 c ?_
    rw [← hv, List.append_assoc, List.head?_append, hc]
    rfl
  · intro c hc
    obtain ⟨v, hv⟩ := List.getLast?_eq_some_iff.1 hc
    exact isBlank_getLast_trimEnd hv

end NotebookLayout.Text
