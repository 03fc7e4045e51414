import Mathlib.Data.List.Basic
import NotebookLayout.Text.Quoted

/-!
# Written forms that show where they end

What is written one after the other can be told apart again if each piece shows where it ends:

- `SelfDelimiting.flatMap_append_inj`: hence what is written of a list shows the list;
- `decimal_append_inj`: a number shows where it ends if no digit follows;
- `selfDelimiting_quote`: a quoted text always does;
- `newline_notMem_quote`: and it is a single line.
-/

namespace NotebookLayout.Text

/-! ## One written form after another -/

/-- Whatever follows, it shows where the written form of a value ends, and which value it is. -/
def SelfDelimiting {α : Type} (write : α → Text) : Prop :=
  ∀ ⦃x y : α⦄ ⦃a b : Text⦄, write x ++ a = write y ++ b → x = y ∧ a = b

/-- The written forms of a list, and something that begins like none of them. -/
theorem SelfDelimiting.flatMap_append_inj {α : Type} {write : α → Text}
    (h : SelfDelimiting write) {xs ys : List α} {a b : Text} (ha : ∀ x u, a ≠ write x ++ u)
    (hb : ∀ x u, b ≠ write x ++ u) (heq : xs.flatMap write ++ a = ys.flatMap write ++ b) :
    xs = ys ∧ a = b := by
  induction xs generalizing ys with
  | nil =>
    cases ys with
    | nil => exact ⟨rfl, heq⟩
    | cons y ys =>
      rw [List.flatMap_cons, List.append_assoc] at heq
      exact absurd heq (ha y _)
  | cons x xs ih =>
    cases ys with
    | nil =>
      rw [List.flatMap_cons, List.append_assoc] at heq
      exact absurd heq.symm (hb x _)
    | cons y ys =>
      rw [List.flatMap_cons, List.flatMap_cons, List.append_assoc, List.append_assoc] at heq
      obtain ⟨rfl, hrest⟩ := h heq
      obtain ⟨rfl, hab⟩ := ih hrest
      exact ⟨rfl, hab⟩

/-! ## Up to the first character of another kind -/

/-- A run of characters with a property ends where one without it comes. -/
theorem append_inj_of_forall {p : Char → Bool} {s t a b : Text} (hs : ∀ c ∈ s, p c = true)
    (ht : ∀ c ∈ t, p c = true) (ha : ∀ c ∈ a.head?, p c = false) (hb : ∀ c ∈ b.head?, p c = false)
    (h : s ++ a = t ++ b) : s = t ∧ a = b := by
  have htake : ∀ {u v : Text}, (∀ c ∈ u, p c = true) → (∀ c ∈ v.head?, p c = false) →
      (u ++ v).takeWhile p = u := by
    intro u v hu hv
    rw [List.takeWhile_append_of_pos hu]
    cases v with
    | nil => exact List.append_nil u
    | cons c v => simp [hv c rfl]
  have hst := congrArg (List.takeWhile p) h
  rw [htake hs ha, htake ht hb] at hst
  rw [hst] at h
  exact ⟨hst, List.append_cancel_left h⟩

/-- A text ends at the first character that is not in it. -/
theorem append_cons_inj_of_notMem {c : Char} {s t a b : Text} (hs : c ∉ s) (ht : c ∉ t)
    (h : s ++ c :: a = t ++ c :: b) : s = t ∧ a = b := by
  have hne : ∀ {u : Text}, c ∉ u → ∀ d ∈ u, (d != c) = true := fun hu d hd =>
    bne_iff_ne.2 fun heq => hu (heq ▸ hd)
  obtain ⟨hst, hab⟩ := append_inj_of_forall (hne hs) (hne ht) (by simp) (by simp) h
  exact ⟨hst, (List.cons.inj hab).2⟩

/-- A number shows where it ends if what follows begins with no digit. -/
theorem decimal_append_inj {m n : Nat} {a b : Text} (ha : ∀ c ∈ a.head?, c.isDigit = false)
    (hb : ∀ c ∈ b.head?, c.isDigit = false) (h : decimal m ++ a = decimal n ++ b) :
    m = n ∧ a = b := by
  obtain ⟨hdigits, hab⟩ := append_inj_of_forall (fun c => isDigit_of_mem_decimal)
    (fun c => isDigit_of_mem_decimal) ha hb h
  exact ⟨decimal_injective hdigits, hab⟩

/-- There is no line feed in a number. -/
theorem newline_notMem_decimal (n : Nat) : '\n' ∉ decimal n := fun h =>
  absurd (isDigit_of_mem_decimal h) (by decide)

/-! ## Quoted texts -/

/-- The character that a letter after a backslash stands for. -/
def ofEscapeLetter? : Char → Option Char
  | '"' => some '"'
  | '\\' => some '\\'
  | 't' => some '\t'
  | 'r' => some '\r'
  | 'n' => some '\n'
  | '0' => some '\x00'
  | _ => none

/-- A character between quotes is written as a letter after a backslash, as its code point or as it
is. -/
theorem quoteChar_cases (c : Char) :
    (∃ e, quoteChar c = ['\\', e] ∧ ofEscapeLetter? e = some c) ∨
      quoteChar c = codePointEscape c ∨
      quoteChar c = [c] ∧ c ≠ '"' ∧ c ≠ '\\' ∧ c ≠ '\n' := by
  unfold quoteChar
  split
  · exact Or.inl ⟨'"', rfl, rfl⟩
  · exact Or.inl ⟨'\\', rfl, rfl⟩
  · exact Or.inl ⟨'t', rfl, rfl⟩
  · exact Or.inl ⟨'r', rfl, rfl⟩
  · exact Or.inl ⟨'n', rfl, rfl⟩
  · exact Or.inl ⟨'0', rfl, rfl⟩
  next hquote hslash _ _ hfeed _ =>
    split
    next => exact Or.inr (Or.inl rfl)
    next => exact Or.inr (Or.inr ⟨rfl, hquote, hslash, hfeed⟩)

/-- The digits of a code point hold neither the brace that ends them nor a line feed. -/
theorem notMem_hexadecimal (n : Nat) : '}' ∉ hexadecimal n ∧ '\n' ∉ hexadecimal n := by
  have hall : ∀ d < 16, '}' ≠ Nat.digitChar d ∧ '\n' ≠ Nat.digitChar d := by decide
  constructor <;> intro h <;> obtain ⟨d, hd, hc⟩ := exists_digitChar_of_mem_hexadecimal h
  · exact (hall d hd).1 hc
  · exact (hall d hd).2 hc

/-- An escaped code point ends at its closing brace. -/
theorem selfDelimiting_codePointEscape : SelfDelimiting codePointEscape := by
  intro c d a b h
  simp only [codePointEscape, List.cons_append, List.nil_append, List.append_assoc, List.cons.injEq,
    true_and] at h
  obtain ⟨hdigits, hrest⟩ :=
    append_cons_inj_of_notMem (notMem_hexadecimal _).1 (notMem_hexadecimal _).1 h
  exact ⟨Char.toNat_inj.1 (hexadecimal_injective hdigits), hrest⟩

/-- It shows where the writing of a character ends. -/
theorem selfDelimiting_quoteChar : SelfDelimiting quoteChar := by
  intro c d a b h
  -- The first two characters tell which of the three forms it is.
  rcases quoteChar_cases c with ⟨e, hc, he⟩ | hc | ⟨hc, -, hcs, -⟩ <;>
    rcases quoteChar_cases d with ⟨f, hd, hf⟩ | hd | ⟨hd, -, hds, -⟩ <;>
    rw [hc, hd] at h
  case inl.inl =>
    simp only [List.cons_append, List.nil_append, List.cons.injEq, true_and] at h
    obtain ⟨rfl, hab⟩ := h
    exact ⟨Option.some.inj (he.symm.trans hf), hab⟩
  case inr.inl.inr.inl => exact selfDelimiting_codePointEscape h
  case inr.inr.inr.inr => simpa using h
  case inl.inr.inl =>
    obtain rfl : e = 'u' := by simp [codePointEscape] at h; exact h.1
    simp [ofEscapeLetter?] at he
  case inr.inl.inl =>
    obtain rfl : f = 'u' := by simp [codePointEscape] at h; exact h.1.symm
    simp [ofEscapeLetter?] at hf
  case inl.inr.inr => exact absurd (by simpa using h : '\\' = d ∧ _).1.symm hds
  case inr.inl.inr.inr =>
    exact absurd (by simpa [codePointEscape] using h : '\\' = d ∧ _).1.symm hds
  case inr.inr.inl => exact absurd (by simpa using h : c = '\\' ∧ _).1 hcs
  case inr.inr.inr.inl => exact absurd (by simpa [codePointEscape] using h : c = '\\' ∧ _).1 hcs

/-- Nothing within a quoted text is written with a bare quote at its start. -/
theorem quote_cons_ne_quoteChar_append (a : Text) (c : Char) (u : Text) :
    '"' :: a ≠ quoteChar c ++ u := by
  rcases quoteChar_cases c with ⟨e, hc, -⟩ | hc | ⟨hc, hquote, -⟩
  · simp [hc]
  · simp [hc, codePointEscape]
  · simp [hc, Ne.symm hquote]

/-- A quoted text ends at the quote that is not escaped. -/
theorem selfDelimiting_quote : SelfDelimiting quote := by
  intro s t a b h
  simp only [quote, List.append_assoc, List.cons_append, List.nil_append, List.cons.injEq,
    true_and] at h
  obtain ⟨hst, hab⟩ := selfDelimiting_quoteChar.flatMap_append_inj
    (quote_cons_ne_quoteChar_append a) (quote_cons_ne_quoteChar_append b) h
  exact ⟨hst, (List.cons.inj hab).2⟩

/-- A line feed is written with an escape. -/
theorem newline_notMem_quoteChar (c : Char) : '\n' ∉ quoteChar c := by
  rcases quoteChar_cases c with ⟨e, hc, he⟩ | hc | ⟨hc, -, -, hfeed⟩ <;> rw [hc]
  · have hne : '\n' ≠ e := by
      rintro rfl
      simp [ofEscapeLetter?] at he
    simp [hne]
  · simp [codePointEscape, (notMem_hexadecimal c.toNat).2]
  · simpa using Ne.symm hfeed

/-- So a quoted text is on a single line. -/
theorem newline_notMem_quote (t : Text) : '\n' ∉ quote t := by
  simp [quote, newline_notMem_quoteChar]

end NotebookLayout.Text
