import Mathlib.Data.List.TakeWhile
import NotebookLayout.Proofs.Document.Lines
import NotebookLayout.Proofs.Token.Lexeme

/-!
# The first lexeme of a text

The first character decides how far a lexeme goes, and nothing that comes after the lexeme matters:

- `Start`: the kinds of first character, with one equation of `next` for each;
- `next_text`: a lexeme that is cut out is cut out whole again;
- `next_append`: a text that ends with a line feed gives the same first lexeme whatever follows it.
-/

namespace NotebookLayout.Lexeme

open Text

/-! ## By the first character -/

/-- What a lexeme can begin with. -/
inductive Start (c : Char) : Prop where
  | spacing (h : isSpacing c = true)
  | newline (h : c = '\n')
  | quote (h : c = '"')
  | punctuation (kind : TokenKind) (h : punctuation? c = some kind)
  | word (h : isWordChar c = true)
  /-- A blank that is no spacing and does not end a line by itself. -/
  | blank (hblank : isBlank c = true) (hspacing : isSpacing c = false) (hnewline : c ≠ '\n')

/-- Every character begins a lexeme of some kind. -/
theorem start (c : Char) : Start c := by
  by_cases hspacing : isSpacing c = true
  · exact .spacing hspacing
  by_cases hnewline : c = '\n'
  · exact .newline hnewline
  by_cases hquote : c = '"'
  · exact .quote hquote
  by_cases hblank : isBlank c = true
  · exact .blank hblank (Bool.eq_false_iff.2 hspacing) hnewline
  cases hp : punctuation? c with
  | some kind => exact .punctuation kind hp
  | none => exact .word (by simp [isWordChar, hblank, hp, hquote])

/-- Spacing is blank. -/
theorem isBlank_of_isSpacing {c : Char} (h : isSpacing c = true) : isBlank c = true := by
  simp only [isSpacing, Bool.or_eq_true, decide_eq_true_eq] at h
  rcases h with (rfl | rfl) | rfl <;> decide

/-- There is no blank in a word. -/
theorem isBlank_of_isWordChar {c : Char} (h : isWordChar c = true) : isBlank c = false := by
  simp only [isWordChar, Bool.and_eq_true, Bool.not_eq_true'] at h
  exact h.1.1

/-- Spacing takes all spacing that follows. -/
theorem next_spacing {c : Char} (h : isSpacing c = true) (t : Text) :
    next c t = (⟨.whitespace, c :: t.takeWhile isSpacing⟩, t.dropWhile isSpacing) := if_pos h

theorem next_newline (t : Text) : next '\n' t = (⟨.newline, ['\n']⟩, t) := rfl

theorem next_quote (t : Text) : next '"' t = quotation t := rfl

/-- A punctuation mark is a lexeme by itself. -/
theorem next_punctuation {c : Char} {kind : TokenKind} (h : punctuation? c = some kind) (t : Text) :
    next c t = (⟨kind, [c]⟩, t) := by
  have hc := h
  unfold punctuation? at hc
  -- Each mark is a character of its own, so none of the cases in front applies.
  split at hc <;> cases hc <;> rfl

/-- A word takes all characters of words that follow. -/
theorem next_word {c : Char} (h : isWordChar c = true) (t : Text) :
    next c t = (⟨.word, c :: t.takeWhile isWordChar⟩, t.dropWhile isWordChar) := by
  have hblank := isBlank_of_isWordChar h
  have hspacing : ¬isSpacing c = true := fun hs => by simp [isBlank_of_isSpacing hs] at hblank
  have hnewline : c ≠ '\n' := by
    rintro rfl
    exact absurd hblank (by decide)
  have hreturn : ¬(c = '\r' ∧ t.head? = some '\n') := by
    rintro ⟨rfl, -⟩
    exact absurd hblank (by decide)
  have hc := h
  simp only [isWordChar, Bool.and_eq_true, Option.isNone_iff_eq_none, decide_eq_true_eq] at hc
  rw [next, if_neg hspacing, if_neg hnewline, if_neg hreturn, if_neg hc.2, hc.1.2]
  exact if_pos h

/-- A blank that begins no longer lexeme is a word of its own. -/
theorem next_blank {c : Char} (hblank : isBlank c = true) (hspacing : isSpacing c = false)
    (hnewline : c ≠ '\n') {t : Text} (ht : ¬(c = '\r' ∧ t.head? = some '\n')) :
    next c t = (⟨.word, [c]⟩, t) := by
  have hquote : c ≠ '"' := by
    rintro rfl
    exact absurd hblank (by decide)
  have hpunctuation : punctuation? c = none := by
    unfold punctuation?
    split
    case h_9 => rfl
    all_goals exact absurd hblank (by decide)
  have hword : ¬isWordChar c = true := by simp [isWordChar, hblank]
  rw [next, if_neg (by simp [hspacing]), if_neg hnewline, if_neg ht, if_neg hquote, hpunctuation]
  exact if_neg hword

/-! ## Reading a lexeme again -/

/-- Neither a backslash nor a line feed is plain between quotes. -/
theorem isPlainQuoted_ne {c : Char} (h : isPlainQuoted c = true) : c ≠ '\\' ∧ c ≠ '\n' := by
  constructor
  all_goals
    rintro rfl
    exact absurd h (by decide)

/-- A quoted run is read through, and then what follows it. -/
theorem quoted_takeQuoted_append (t s : Text) :
    takeQuoted (takeQuoted t ++ s) = takeQuoted t ++ takeQuoted s ∧
      dropQuoted (takeQuoted t ++ s) = dropQuoted s := by
  fun_induction takeQuoted t with
  | case1 t => exact ⟨rfl, rfl⟩
  | case2 c t hc ih => simp [takeQuoted, dropQuoted, hc, ih]
  | case3 c t hslash hplain ih =>
    simp [takeQuoted, dropQuoted, hplain, ih, (isPlainQuoted_ne hplain).1]
  | case4 c t hslash hplain => exact ⟨rfl, rfl⟩
  | case5 => exact ⟨rfl, rfl⟩

/-- The text of a quotation read again is the same quotation. -/
theorem quotation_text (t : Text) :
    ∃ w, (quotation t).1.text = '"' :: w ∧ quotation w = ((quotation t).1, []) := by
  -- The quoted run ends where it ended before, at the closing quote or at the end of the text.
  unfold quotation
  split
  next =>
    refine ⟨takeQuoted t ++ ['"'], rfl, ?_⟩
    obtain ⟨htake, hdrop⟩ := quoted_takeQuoted_append t ['"']
    rw [htake, hdrop]
    simp [takeQuoted, dropQuoted, isPlainQuoted]
  next =>
    refine ⟨takeQuoted t, rfl, ?_⟩
    obtain ⟨htake, hdrop⟩ := quoted_takeQuoted_append t []
    rw [List.append_nil] at htake hdrop
    rw [htake, hdrop]
    simp [takeQuoted, dropQuoted]

/-- What was taken is taken as a whole again. -/
theorem takeWhile_idem_dropWhile (p : Char → Bool) (t : Text) :
    (t.takeWhile p).takeWhile p = t.takeWhile p ∧ (t.takeWhile p).dropWhile p = [] :=
  ⟨List.takeWhile_idem, List.dropWhile_eq_nil_iff.2 fun _ h => List.mem_takeWhile_imp h⟩

/-- The text of a lexeme alone gives the same lexeme, and nothing is left. -/
theorem next_text (c : Char) (t : Text) :
    ∃ w, (next c t).1.text = c :: w ∧ next c w = ((next c t).1, []) := by
  cases start c with
  | spacing h =>
    obtain ⟨htake, hdrop⟩ := takeWhile_idem_dropWhile isSpacing t
    refine ⟨t.takeWhile isSpacing, by rw [next_spacing h], ?_⟩
    rw [next_spacing h, next_spacing h, htake, hdrop]
  | newline h =>
    subst h
    exact ⟨[], rfl, rfl⟩
  | quote h =>
    subst h
    exact quotation_text t
  | punctuation kind h => exact ⟨[], by rw [next_punctuation h], by simp [next_punctuation h]⟩
  | word h =>
    obtain ⟨htake, hdrop⟩ := takeWhile_idem_dropWhile isWordChar t
    refine ⟨t.takeWhile isWordChar, by rw [next_word h], ?_⟩
    rw [next_word h, next_word h, htake, hdrop]
  | blank hblank hspacing hnewline =>
    -- Only a carriage return in front of a line feed is not read as one character.
    by_cases ht : c = '\r' ∧ t.head? = some '\n'
    · obtain ⟨rfl, ht⟩ := ht
      obtain ⟨rest, rfl⟩ := List.head?_eq_some_iff.1 ht
      exact ⟨['\n'], rfl, rfl⟩
    · refine ⟨[], by rw [next_blank hblank hspacing hnewline ht], ?_⟩
      rw [next_blank hblank hspacing hnewline ht, next_blank hblank hspacing hnewline (by simp)]

/-! ## What follows a line -/

/-- A line feed ends what may be between quotes, whatever follows the text. -/
theorem quoted_append {u : Text} (hu : '\n' ∈ u) (v : Text) :
    takeQuoted (u ++ v) = takeQuoted u ∧ dropQuoted (u ++ v) = dropQuoted u ++ v := by
  fun_induction takeQuoted u with
  | case1 t => exact ⟨rfl, rfl⟩
  | case2 c t hc ih =>
    have ih := ih (by simpa [Ne.symm hc] using hu)
    simp [takeQuoted, dropQuoted, hc, ih]
  | case3 c t hslash hplain ih =>
    obtain ⟨hne, hc⟩ := isPlainQuoted_ne hplain
    have ih := ih (by simpa [Ne.symm hc] using hu)
    simp [takeQuoted, dropQuoted, hplain, ih, hne]
  | case4 c t hslash hplain =>
    -- The run stops at `c`, also if `c` is a backslash: it is then no character in front of `v`.
    have hslash' : ∀ d s, c = '\\' → t ++ v = d :: s → False := by
      rintro d s rfl -
      cases t with
      | nil => simp at hu
      | cons e t => exact hslash e t rfl rfl
    rw [List.cons_append, takeQuoted.eq_2 _ _ hslash', dropQuoted.eq_2 _ _ hslash',
      dropQuoted.eq_2 _ _ hslash]
    simp [hplain]
  | case5 => simp at hu

/-- So it does with a quotation. -/
theorem quotation_append {u : Text} (hu : '\n' ∈ u) (v : Text) :
    quotation (u ++ v) = ((quotation u).1, (quotation u).2 ++ v) := by
  obtain ⟨htake, hdrop⟩ := quoted_append hu v
  rw [quotation, quotation, htake, hdrop]
  -- The line feed is in no quoted run, so something is left of `u`.
  cases h : dropQuoted u with
  | nil =>
    have hall := takeQuoted_append_dropQuoted u
    rw [h, List.append_nil] at hall
    exact absurd (hall.symm ▸ hu) (newline_notMem_takeQuoted u)
  | cons c rest =>
    rw [List.cons_append]
    split <;> split <;> simp_all

/-- A run of characters does not go past one that is not of its class. -/
theorem takeWhile_append_of_mem {p : Char → Bool} {u : Text} {d : Char} (hd : d ∈ u)
    (hp : p d = false) (v : Text) :
    (u ++ v).takeWhile p = u.takeWhile p ∧ (u ++ v).dropWhile p = u.dropWhile p ++ v := by
  induction u with
  | nil => simp at hd
  | cons c u ih =>
    by_cases hc : p c = true
    · have hne : d ≠ c := fun heq => by simp [heq, hc] at hp
      have ih := ih ((List.mem_cons.1 hd).resolve_left hne)
      simp [hc, ih]
    · simp [hc]

/-- In front of a line, a text gives the same first lexeme as alone, and the line stays behind what
is left of the text. -/
theorem next_append {c : Char} {u : Text} (hu : EndsLine (c :: u)) (v : Text) :
    next c (u ++ v) = ((next c u).1, (next c u).2 ++ v) := by
  have hmem : c ≠ '\n' → '\n' ∈ u := by
    intro hc
    rcases hu.of_cons with hnil | hlast
    · exact absurd hnil (hu.ne_nil_of_cons hc)
    · exact List.mem_of_getLast? hlast
  cases start c with
  | spacing h =>
    have hc : c ≠ '\n' := by
      rintro rfl
      exact absurd h (by decide)
    obtain ⟨htake, hdrop⟩ := takeWhile_append_of_mem (p := isSpacing) (hmem hc) (by decide) v
    rw [next_spacing h, next_spacing h, htake, hdrop]
  | newline h => rw [h, next_newline, next_newline]
  | quote h =>
    subst h
    rw [next_quote, next_quote]
    exact quotation_append (hmem (by decide)) v
  | punctuation kind h => rw [next_punctuation h, next_punctuation h]
  | word h =>
    have hc : c ≠ '\n' := by
      rintro rfl
      exact absurd h (by decide)
    obtain ⟨htake, hdrop⟩ := takeWhile_append_of_mem (p := isWordChar) (hmem hc) (by decide) v
    rw [next_word h, next_word h, htake, hdrop]
  | blank hblank hspacing hnewline =>
    -- A carriage return looks at the next character, which is one of `u`.
    have hhead : (u ++ v).head? = u.head? := by
      obtain ⟨d, r, rfl⟩ := List.exists_cons_of_ne_nil (List.ne_nil_of_mem (hmem hnewline))
      rfl
    by_cases hr : c = '\r' ∧ u.head? = some '\n'
    · obtain ⟨rfl, hhead⟩ := hr
      obtain ⟨rest, rfl⟩ := List.head?_eq_some_iff.1 hhead
      rfl
    · rw [next_blank hblank hspacing hnewline hr,
        next_blank hblank hspacing hnewline (by rwa [hhead])]

end NotebookLayout.Lexeme
