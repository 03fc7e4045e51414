import Mathlib.Data.List.TakeWhile
import NotebookLayout.Token.Lexeme

/-!
# Lexemes by kind

What the text of a lexeme can be, told by its kind: only line ends hold line feeds, and runs of
white space hold nothing but spaces, tabs and form feeds. Every lexeme of every text is of this form
(`lawful_of_mem_ofText`).
-/

namespace NotebookLayout.Lexeme

/-- The text of a lexeme is one that its kind allows. -/
structure Lawful (x : Lexeme) : Prop where
  isSpacing : x.kind = .whitespace → ∀ c ∈ x.text, isSpacing c = true
  eq_newline : x.kind = .newline → x.text = ['\n'] ∨ x.text = ['\r', '\n']
  newline_notMem : x.kind.isTrivia = false → '\n' ∉ x.text

/-- A run of spacing is white space. -/
theorem lawful_whitespace {t : Text} (h : ∀ c ∈ t, isSpacing c = true) :
    Lawful ⟨.whitespace, t⟩ where
  isSpacing _ := h
  eq_newline hkind := nomatch hkind
  newline_notMem hkind := nomatch hkind

/-- Both line ends are line ends. -/
theorem lawful_newline {t : Text} (h : t = ['\n'] ∨ t = ['\r', '\n']) : Lawful ⟨.newline, t⟩ where
  isSpacing hkind := nomatch hkind
  eq_newline _ := h
  newline_notMem hkind := nomatch hkind

/-- For a lexeme that makes a leaf, all that counts is that it holds no line feed. -/
theorem lawful_of_isTrivia {kind : TokenKind} {t : Text} (hkind : kind.isTrivia = false)
    (h : '\n' ∉ t) : Lawful ⟨kind, t⟩ where
  isSpacing := by
    rintro rfl
    exact absurd hkind (by decide)
  eq_newline := by
    rintro rfl
    exact absurd hkind (by decide)
  newline_notMem _ := h

/-- A line feed is in nothing but a line end. -/
theorem Lawful.kind_eq_newline {x : Lexeme} (h : x.Lawful) (hmem : '\n' ∈ x.text) :
    x.kind = .newline := by
  by_contra hne
  refine h.newline_notMem ?_ hmem
  cases hkind : x.kind with
  | newline => exact absurd hkind hne
  | whitespace => exact absurd (h.isSpacing hkind '\n' hmem) (by decide)
  | _ => rfl

/-- Trivia is spacing, or a line end with the line feed at its end. -/
theorem Lawful.trivia_cases {x : Lexeme} (h : x.Lawful) (htrivia : x.kind.isTrivia = true) :
    (x.kind = .whitespace ∧ (∀ c ∈ x.text, Lexeme.isSpacing c = true) ∧ '\n' ∉ x.text) ∨
      (x.kind = .newline ∧ ∃ w, x.text = w ++ ['\n']) := by
  cases hkind : x.kind with
  | whitespace =>
    have hspacing := h.isSpacing hkind
    exact Or.inl ⟨rfl, hspacing, fun hmem => absurd (hspacing '\n' hmem) (by decide)⟩
  | newline =>
    refine Or.inr ⟨rfl, ?_⟩
    rcases h.eq_newline hkind with htext | htext
    · exact ⟨[], htext⟩
    · exact ⟨['\r'], htext⟩
  | _ => exact absurd htrivia (by simp [hkind, TokenKind.isTrivia])

/-- No punctuation mark is trivia. -/
theorem isTrivia_of_punctuation? {c : Char} {kind : TokenKind} (h : punctuation? c = some kind) :
    kind.isTrivia = false := by
  unfold punctuation? at h
  split at h <;> cases h <;> rfl

/-- There is no line feed between quotes. -/
theorem newline_notMem_takeQuoted (t : Text) : '\n' ∉ takeQuoted t := by
  fun_induction takeQuoted t with
  | case1 t => exact List.not_mem_nil
  | case2 c t hc ih => simp [ih, Ne.symm hc]
  | case3 c t hslash hplain ih =>
    have hc : c ≠ '\n' := by
      rintro rfl
      exact absurd hplain (by decide)
    simp [ih, Ne.symm hc]
  | case4 c t hslash hplain => exact List.not_mem_nil
  | case5 => exact List.not_mem_nil

/-- A quotation is lawful, be it closed or not. -/
theorem lawful_quotation (t : Text) : Lawful (quotation t).1 := by
  have hquoted := newline_notMem_takeQuoted t
  unfold quotation
  split
  · exact lawful_of_isTrivia rfl (by simp [hquoted])
  · exact lawful_of_isTrivia rfl (by simp [hquoted])

/-- So is the first lexeme of any text. -/
theorem lawful_next (c : Char) (t : Text) : Lawful (next c t).1 := by
  unfold next
  -- The cases are those of the definition; from the third one on, `c` is no line feed.
  split
  next hc =>
    refine lawful_whitespace fun d hd => ?_
    rcases List.mem_cons.1 hd with rfl | hd
    · exact hc
    · exact List.mem_takeWhile_imp hd
  split
  next hc => exact lawful_newline (Or.inl (by rw [hc]))
  next hc =>
  split
  next => exact lawful_newline (Or.inr rfl)
  split
  next => exact lawful_quotation t
  split
  next kind hkind =>
    exact lawful_of_isTrivia (isTrivia_of_punctuation? hkind) (by simpa using Ne.symm hc)
  split
  next =>
    refine lawful_of_isTrivia rfl fun hmem => ?_
    rcases List.mem_cons.1 hmem with heq | hmem
    · exact hc heq.symm
    · -- A line feed is blank, so it is in no word.
      have hword : isWordChar '\n' = true := List.mem_takeWhile_imp hmem
      exact absurd hword (by decide)
  next => exact lawful_of_isTrivia rfl (by simpa using Ne.symm hc)

/-- So are all lexemes of a text. -/
theorem lawful_of_mem_ofText {t : Text} {x : Lexeme} (h : x ∈ ofText t) : Lawful x := by
  fun_induction ofText t with
  | case1 => simp at h
  | case2 c t ih =>
    rcases List.mem_cons.1 h with rfl | h
    · exact lawful_next c t
    · exact ih h

end NotebookLayout.Lexeme
