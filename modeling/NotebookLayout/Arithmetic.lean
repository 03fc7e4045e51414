/-!
# Arithmetic of counters

Offsets and columns are counted in words of 64 bits. What becomes of a sum that does not fit depends
on how the program is built: either the sum loses its high bits or the program stops.

Main statements: a number that fits is kept as it is (`Arithmetic.fit_of_lt`), and a sum may be
fitted on the way or only at its end (`Arithmetic.fit_bind_add`).
-/

namespace NotebookLayout

/-- The numbers below this one fit in a counter. -/
def wordLimit : Nat := UInt64.size

/-- Zero fits in a counter. -/
theorem wordLimit_pos : 0 < wordLimit := by decide

/-- What becomes of a sum that does not fit in a counter. -/
inductive Arithmetic where
  /-- The sum loses its high bits. -/
  | wrapping
  /-- The program stops. -/
  | checked
  deriving DecidableEq

/-- Why the program stops. -/
inductive ArithmeticError where
  /-- A sum does not fit in a counter. -/
  | overflow
  deriving DecidableEq

/-- The text of the error. -/
def ArithmeticError.message : ArithmeticError → String
  | .overflow => "attempt to add with overflow"

namespace Arithmetic

/-- What a counter holds after a sum with an exact value. -/
def fit : Arithmetic → Nat → Except ArithmeticError Nat
  | .wrapping, n => .ok (n % wordLimit)
  | .checked, n => if n < wordLimit then .ok n else .error .overflow

/-- A number that fits is kept as it is. -/
theorem fit_of_lt (arith : Arithmetic) {n : Nat} (h : n < wordLimit) : arith.fit n = .ok n := by
  cases arith with
  | wrapping => exact congrArg _ (Nat.mod_eq_of_lt h)
  | checked => exact if_pos h

@[simp] theorem fit_wrapping (n : Nat) : wrapping.fit n = .ok (n % wordLimit) := rfl

/-- Checked sums are exact, or the program has stopped. -/
@[simp] theorem fit_checked_eq_ok {n m : Nat} :
    checked.fit n = .ok m ↔ n < wordLimit ∧ m = n := by
  rw [fit]
  split
  next h => simp [h, eq_comm]
  next h => simp [h]

/-- What a counter holds before more is added to it does not matter to the sum. -/
theorem fit_bind_add (arith : Arithmetic) (n k : Nat) :
    (arith.fit n >>= fun m => arith.fit (m + k)) = arith.fit (n + k) := by
  cases arith with
  | wrapping => exact congrArg Except.ok (Nat.mod_add_mod n wordLimit k)
  | checked =>
    by_cases h : n < wordLimit
    · rw [fit_of_lt checked h]
      rfl
    · -- A sum of which a part does not fit does not fit either.
      have hsum : ¬n + k < wordLimit := fun hsum =>
        h (Nat.lt_of_le_of_lt (Nat.le_add_right n k) hsum)
      rw [fit, if_neg h, fit, if_neg hsum]
      rfl

end Arithmetic

end NotebookLayout
