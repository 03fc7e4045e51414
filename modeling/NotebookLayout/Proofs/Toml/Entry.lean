import Mathlib.Algebra.GroupWithZero.Nat
import NotebookLayout.Proofs.Toml.String
import NotebookLayout.Report.Toml
import NotebookLayout.Toml.Reader

/-!
# Written entries are read back

A line of a document that gives a bare key a value is read as this entry, whatever lines follow. The
values here are numbers and strings.

Main statements: `readValue?_decimal` and `readValue?_writeString` for the values, and
`IsBareKey.readLines?` for a line whose value is read.
-/

namespace NotebookLayout

namespace Toml

open Text

/-! ## First characters -/

theorem cons_ne_cons {c d : Char} {t : Text} (h : c ≠ d) (u : Text) : c :: t ≠ d :: u := fun heq =>
  h (List.cons.inj heq).1

theorem ne_of_isDigit {c d : Char} (hc : c.isDigit = true) (hd : d.isDigit = false) : c ≠ d := by
  rintro rfl
  simp [hc] at hd

/-- What is read up to a character that does not belong to it, and what is left. -/
theorem takeWhile_append_cons {p : Char → Bool} {s : Text} {c : Char} (hs : ∀ d ∈ s, p d = true)
    (hc : p c = false) (t : Text) :
    (s ++ c :: t).takeWhile p = s ∧ (s ++ c :: t).dropWhile p = c :: t := by
  have hend : ¬p c = true := by simp [hc]
  rw [List.takeWhile_append_of_pos hs, List.dropWhile_append_of_pos hs,
    List.takeWhile_cons_of_neg hend, List.dropWhile_cons_of_neg hend, List.append_nil]
  exact ⟨rfl, rfl⟩

/-! ## Digits -/

/-- A decimal digit has its value. -/
theorem digit?_of_isDigit {c : Char} (h : c.isDigit = true) :
    digit? 10 c = some (c.toNat - '0'.toNat) := by
  have hc : '0' ≤ c ∧ c ≤ '9' := by simpa [Char.isDigit, Char.le_def] using h
  have hle : c.toNat ≤ '9'.toNat := UInt32.le_iff_toNat_le.1 hc.2
  have hlt : c.toNat - '0'.toNat < 10 := by
    have hnine : '9'.toNat = '0'.toNat + 9 := rfl
    omega
  rw [digit?, if_pos hc, if_pos hlt]

/-- Decimal digits are read as the library reads them. -/
theorem digitsFrom?_of_isDigit {t : Text} (h : ∀ c ∈ t, c.isDigit = true) (value : Nat) :
    digitsFrom? 10 value t = some (Nat.ofDigitChars 10 t value) := by
  induction t generalizing value with
  | nil => rfl
  | cons c t ih =>
    obtain ⟨hc, ht⟩ := List.forall_mem_cons.1 h
    rw [digitsFrom?, digit?_of_isDigit hc, Nat.ofDigitChars_cons, Nat.mul_comm 10]
    · exact ih ht _
    · exact fun _ _ heq _ => ne_of_isDigit hc rfl heq

/-- A number is read back. -/
theorem decimal?_decimal (n : Nat) : decimal? (decimal n) = some n := by
  by_cases hn : n = 0
  · subst hn
    rfl
  obtain ⟨c, t, hdecimal, hzero, hc, ht⟩ := exists_decimal_eq_cons hn
  have hvalue := ofDecimal_decimal n
  rw [hdecimal, ofDecimal, Nat.ofDigitChars_cons, Nat.mul_zero, Nat.zero_add] at hvalue
  rw [hdecimal, decimal?, digits?, digit?_of_isDigit hc]
  · exact (digitsFrom?_of_isDigit ht _).trans (congrArg some hvalue)
  · exact cons_ne_cons hzero []
  · exact cons_ne_cons hzero

/-- It is read back as an integer without a sign. -/
theorem integer?_decimal (n : Nat) : integer? (decimal n) = some (Int.ofNat n) := by
  by_cases hn : n = 0
  · subst hn
    rfl
  have hread := decimal?_decimal n
  obtain ⟨c, t, hdecimal, hzero, hc, -⟩ := exists_decimal_eq_cons hn
  rw [hdecimal] at hread ⊢
  rw [integer?, signed?, hread]
  · rfl
  · exact cons_ne_cons (ne_of_isDigit hc rfl)
  · exact cons_ne_cons (ne_of_isDigit hc rfl)
  -- No letter for a base follows, since the first digit is not zero.
  all_goals exact fun u => cons_ne_cons hzero _

/-- No other value is written like a number. -/
theorem bareValue?_decimal {n : Nat} (hn : n < 2 ^ 128) :
    bareValue? (decimal n) = some (.integer n) := by
  have hword : ∀ {t : Text}, 't' ∈ t ∨ 'f' ∈ t → decimal n ≠ t := by
    rintro t ht rfl
    rcases ht with ht | ht <;> exact ne_of_isDigit (isDigit_of_mem_decimal ht) rfl rfl
  have hfits : fitsInteger (Int.ofNat n) = true := by
    simp only [fitsInteger, Bool.and_eq_true, decide_eq_true_eq]
    have hlow : -Int.pow 2 127 ≤ 0 := by decide
    have hhigh : Int.pow 2 128 = Int.ofNat (2 ^ 128) := by decide
    rw [hhigh]
    exact ⟨Int.le_trans hlow (Int.natCast_nonneg n), Int.ofNat_lt.2 hn⟩
  rw [bareValue?, if_neg (hword (by simp)), if_neg (hword (by simp)), integer?_decimal]
  exact if_pos hfits

/-- A number is read up to the end of its line. -/
theorem readBareValue?_decimal {n : Nat} (hn : n < 2 ^ 128) (rest : Text) :
    readBareValue? (decimal n ++ '\n' :: rest) = some (.integer n, '\n' :: rest) := by
  have hchars : ∀ c ∈ decimal n, isBareValueChar c = true := fun c hc => by
    simp [isBareValueChar, Char.isAlphanum, isDigit_of_mem_decimal hc]
  obtain ⟨htake, hdrop⟩ := takeWhile_append_cons (c := '\n') hchars (by decide) rest
  have hsplit : splitBareValue (decimal n ++ '\n' :: rest) = (decimal n, '\n' :: rest) := by
    rw [splitBareValue, htake, hdrop]
    cases isDate (decimal n) <;> rfl
  rw [readBareValue?, hsplit, bareValue?_decimal hn]
  rfl

/-! ## Values -/

/-- A number is read up to the end of its line. -/
theorem readValue?_decimal {n : Nat} (hn : n < 2 ^ 128) (fuel levels : Nat) (rest : Text) :
    readValue? (fuel + 1) levels (decimal n ++ '\n' :: rest) = some (.integer n, '\n' :: rest) := by
  have hread := readBareValue?_decimal hn rest
  have hdigits := fun c => isDigit_of_mem_decimal (n := n) (c := c)
  cases hdecimal : decimal n with
  | nil => exact absurd hdecimal Nat.toDigits_ne_nil
  | cons c t =>
    rw [hdecimal] at hread hdigits
    have hc := hdigits c List.mem_cons_self
    rw [readValue?, hread]
    all_goals exact cons_ne_cons (ne_of_isDigit hc rfl)

/-- So is a written string, which may go on over several lines. -/
theorem readValue?_writeString (fuel levels : Nat) (t rest : Text) :
    readValue? (fuel + 1) levels (writeString t ++ '\n' :: rest) =
      some (.string t, '\n' :: rest) := by
  have hread : readString? (writeString t ++ '\n' :: rest) = some (t, '\n' :: rest) :=
    readString?_writeString t (by simp) (by simp)
  have hhead := head?_writeString t
  cases hwrite : writeString t with
  | nil => simp [hwrite] at hhead
  | cons c u =>
    rw [hwrite] at hread hhead
    rcases hhead with hc | hc <;>
      rw [Option.some.inj hc, List.cons_append] at hread ⊢ <;>
      rw [readValue?, hread] <;>
      rfl

/-- No space is in front of a number. -/
theorem isSpace_head_decimal (n : Nat) : ∀ c ∈ (decimal n).head?, isSpace c = false := by
  intro c hc
  have hdigit := isDigit_of_mem_decimal (List.mem_of_mem_head? hc)
  simp [isSpace, ne_of_isDigit (d := ' ') hdigit rfl, ne_of_isDigit (d := '\t') hdigit rfl]

/-- Nor is one in front of a string. -/
theorem isSpace_head_writeString (t : Text) :
    ∀ c ∈ (writeString t).head?, isSpace c = false := by
  intro c hc
  rcases head?_writeString t with hhead | hhead <;> rw [hhead] at hc
  · obtain rfl : '"' = c := Option.some.inj hc
    rfl
  · obtain rfl : '\'' = c := Option.some.inj hc
    rfl

/-! ## Lines -/

/-- A word that can be a key without delimiters. -/
structure IsBareKey (key : Text) : Prop where
  /-- There is a character. -/
  ne_nil : key ≠ []
  /-- All characters can stand without delimiters. -/
  isBareKeyChar : ∀ c ∈ key, isBareKeyChar c = true

variable {key value t rest : Text} {v : Value} {n : Nat}

/-- Nothing but spaces and tabs is skipped. -/
theorem skipSpace_append (hspace : ∀ c ∈ value.head?, isSpace c = false) :
    skipSpace (value ++ '\n' :: rest) = value ++ '\n' :: rest := by
  cases value with
  | nil => exact List.dropWhile_cons_of_neg (by decide)
  | cons c t => exact List.dropWhile_cons_of_neg (by simp [hspace c rfl])

/-- A bare key begins with none of the characters that mean something at the start of a line. -/
theorem IsBareKey.exists_eq_cons (hkey : IsBareKey key) :
    ∃ c k, key = c :: k ∧ c ∉ [' ', '\t', '"', '\'', '[', '\n', '\r', '#'] := by
  cases key with
  | nil => exact absurd rfl hkey.ne_nil
  | cons c k =>
    refine ⟨c, k, rfl, fun hmem => ?_⟩
    have hall :
        [' ', '\t', '"', '\'', '[', '\n', '\r', '#'].all (!Toml.isBareKeyChar ·) = true := by
      decide
    have hnot := List.all_eq_true.1 hall c hmem
    rw [hkey.isBareKeyChar c List.mem_cons_self] at hnot
    exact absurd hnot (by decide)

/-- A bare key ends at the space behind it. -/
theorem IsBareKey.readKeyPart? (hkey : IsBareKey key) (t : Text) :
    readKeyPart? (key ++ ' ' :: t) = some (key, ' ' :: t) := by
  obtain ⟨htake, hdrop⟩ := takeWhile_append_cons (c := ' ') hkey.isBareKeyChar (by decide) t
  obtain ⟨c, k, rfl, hc⟩ := hkey.exists_eq_cons
  rw [Toml.readKeyPart?, htake, hdrop]
  · exact cons_ne_cons fun h => hc (by simp [h])
  · exact cons_ne_cons fun h => hc (by simp [h])

/-- In front of an equals sign it is the whole key. -/
theorem IsBareKey.readKey? (hkey : IsBareKey key) (t : Text) :
    readKey? (key ++ ' ' :: '=' :: t) = some ({ path := [], name := key }, '=' :: t) := by
  have hskip : skipSpace (' ' :: '=' :: t) = '=' :: t := by
    simp [skipSpace, isSpace]
  rw [Toml.readKey?, maxKeyParts, readParts?, hkey.readKeyPart?]
  simp [hskip]

/-- A key and a value make an entry. -/
theorem IsBareKey.readStatement? (hkey : IsBareKey key)
    (hspace : ∀ c ∈ value.head?, isSpace c = false)
    (hvalue : readValue? n maxNesting (value ++ '\n' :: rest) = some (v, '\n' :: rest)) :
    readStatement? n (key ++ ' ' :: '=' :: ' ' :: (value ++ '\n' :: rest)) =
      some (.entry { path := [], name := key } v, '\n' :: rest) := by
  have hskip : skipSpace (' ' :: (value ++ '\n' :: rest)) = value ++ '\n' :: rest :=
    (List.dropWhile_cons_of_pos (by decide)).trans (skipSpace_append hspace)
  have hread := hkey.readKey? (' ' :: (value ++ '\n' :: rest))
  obtain ⟨c, k, rfl, hc⟩ := hkey.exists_eq_cons
  have hbracket : c ≠ '[' := fun h => hc (by simp [h])
  rw [List.cons_append] at hread ⊢
  rw [Toml.readStatement?, hread]
  · simp [hskip, hvalue]
  · exact fun u => cons_ne_cons hbracket _
  · exact cons_ne_cons hbracket

/-- A line with an entry, and the lines after it. -/
theorem IsBareKey.readLines? (hkey : IsBareKey key)
    (hspace : ∀ c ∈ value.head?, isSpace c = false)
    (hvalue : readValue? n maxNesting (value ++ '\n' :: rest) = some (v, '\n' :: rest)) :
    readLines? (n + 1) (assignment key value ++ rest) =
      (readLines? n rest).map (.entry { path := [], name := key } v :: ·) := by
  have hstatement := hkey.readStatement? hspace hvalue
  have hline : assignment key value ++ rest =
      key ++ ' ' :: '=' :: ' ' :: (value ++ '\n' :: rest) := by
    simp [assignment]
  obtain ⟨c, k, rfl, hc⟩ := hkey.exists_eq_cons
  simp only [List.mem_cons, List.not_mem_nil, or_false, not_or] at hc
  have hskip : skipSpace (c :: k ++ ' ' :: '=' :: ' ' :: (value ++ '\n' :: rest)) =
      c :: (k ++ ' ' :: '=' :: ' ' :: (value ++ '\n' :: rest)) :=
    List.dropWhile_cons_of_neg (by simp [isSpace, hc])
  rw [hline, Toml.readLines?, hskip]
  simp only [hc, or_self, if_false]
  have hnext : nextLine? ('\n' :: rest) = some rest := rfl
  rw [List.cons_append] at hstatement
  rw [hstatement]
  cases hrest : Toml.readLines? n rest <;> simp [hnext, hrest]

end Toml

end NotebookLayout
