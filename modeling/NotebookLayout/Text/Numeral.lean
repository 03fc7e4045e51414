import NotebookLayout.Text.Basic

/-!
# Written numbers

Natural numbers in decimal and hexadecimal digits, without padding.

Main statements: `decimal_injective`, from reading the digits back, and `hexadecimal_injective`,
digit by digit.
-/

namespace NotebookLayout.Text

/-- The decimal digits of `n`. -/
def decimal (n : Nat) : Text := Nat.toDigits 10 n

/-- The hexadecimal digits of `n`, in lower case. -/
def hexadecimal (n : Nat) : Text := Nat.toDigits 16 n

/-- The number written by decimal digits. -/
def ofDecimal (t : Text) : Nat := Nat.ofDigitChars 10 t 0

/-- A number is read back from its digits. -/
@[simp] theorem ofDecimal_decimal (n : Nat) : ofDecimal (decimal n) = n :=
  Nat.ofDigitChars_ten_toDigits

/-- So different numbers have different digits. -/
theorem decimal_injective {m n : Nat} (h : decimal m = decimal n) : m = n := by
  rw [← ofDecimal_decimal m, h, ofDecimal_decimal]

/-- A number is written with digits alone. -/
theorem isDigit_of_mem_decimal {n : Nat} {c : Char} (h : c ∈ decimal n) : c.isDigit = true :=
  Nat.isDigit_of_mem_toDigits (by decide) (by decide) h

/-- Only zero is written with a zero in front. -/
theorem head?_decimal_ne {n : Nat} (hn : n ≠ 0) : (decimal n).head? ≠ some '0' := by
  induction n using Nat.strongRecOn with
  | ind n ih =>
    rw [decimal, Nat.toDigits_eq_if (by decide)]
    split
    next hlt =>
      have hall : ∀ d < 10, d ≠ 0 → Nat.digitChar d ≠ '0' := by decide
      simpa using hall n hlt hn
    next hge =>
      rw [List.head?_append, Option.or_of_isSome (by simp [Nat.toDigits_ne_nil])]
      exact ih (n / 10) (by omega) (by omega)

/-- A number other than zero is a digit other than zero and further digits. -/
theorem exists_decimal_eq_cons {n : Nat} (hn : n ≠ 0) :
    ∃ c t, decimal n = c :: t ∧ c ≠ '0' ∧ c.isDigit = true ∧ ∀ d ∈ t, d.isDigit = true := by
  have hhead := head?_decimal_ne hn
  have hdigits := fun c => isDigit_of_mem_decimal (n := n) (c := c)
  cases ht : decimal n with
  | nil => exact absurd ht Nat.toDigits_ne_nil
  | cons c t =>
    rw [ht] at hhead hdigits
    exact ⟨c, t, rfl, by simpa using hhead, List.forall_mem_cons.1 hdigits⟩

/-- Each hexadecimal digit stands for a number below 16. -/
theorem exists_digitChar_of_mem_hexadecimal {n : Nat} {c : Char} (h : c ∈ hexadecimal n) :
    ∃ d < 16, c = Nat.digitChar d := by
  induction n using Nat.strongRecOn with
  | ind n ih =>
    rw [hexadecimal, Nat.toDigits_eq_if (by decide)] at h
    split at h
    next hlt => exact ⟨n, hlt, List.mem_singleton.1 h⟩
    next hge =>
      rcases List.mem_append.1 h with h | h
      · exact ih (n / 16) (by omega) h
      · exact ⟨n % 16, Nat.mod_lt n (by decide), List.mem_singleton.1 h⟩

/-- Different numbers below 16 have different digits. -/
theorem digitChar_injective {m n : Nat} (hm : m < 16) (hn : n < 16)
    (h : Nat.digitChar m = Nat.digitChar n) : m = n := by
  have hall : ∀ a < 16, ∀ b < 16, Nat.digitChar a = Nat.digitChar b → a = b := by decide
  exact hall m hm n hn h

/-- Different numbers have different hexadecimal digits. -/
theorem hexadecimal_injective {m n : Nat} (h : hexadecimal m = hexadecimal n) : m = n := by
  induction m using Nat.strongRecOn generalizing n with
  | ind m ih =>
    rw [hexadecimal, hexadecimal, Nat.toDigits_eq_if (by decide),
      Nat.toDigits_eq_if (n := n) (by decide)] at h
    -- A number below the base has one digit, and any other has more.
    split at h <;> split at h
    next hm hn => exact digitChar_injective hm hn (List.cons.inj h).1
    next => simpa [Nat.toDigits_ne_nil] using congrArg List.length h
    next => simpa [Nat.toDigits_ne_nil] using congrArg List.length h
    next hm hn =>
      obtain ⟨hdiv, hmod⟩ := List.append_inj' h rfl
      have hdiv := ih (m / 16) (by omega) hdiv
      have hmod := digitChar_injective (Nat.mod_lt m (by decide)) (Nat.mod_lt n (by decide))
        (List.cons.inj hmod).1
      omega

end NotebookLayout.Text
