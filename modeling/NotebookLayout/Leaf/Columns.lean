import NotebookLayout.Arithmetic
import NotebookLayout.Text.Fullwidth

/-!
# Columns

The columns that a text takes in monospaced layout: a tab counts as the tab size, a fullwidth
character as two, anything else as one. `columns` is the exact number; `columnsWith` is the sum as a
counter takes it.
-/

namespace NotebookLayout.Text

/-- The columns of a character. -/
def charColumns (tabSize : Nat) (c : Char) : Nat :=
  if c = '\t' then tabSize else if isFullwidth c then 2 else 1

/-- The columns of a text, read as a single line. -/
def columns (tabSize : Nat) : Text → Nat
  | [] => 0
  | c :: t => charColumns tabSize c + columns tabSize t

/-- Texts side by side take their columns together. -/
theorem columns_append (tabSize : Nat) (s t : Text) :
    columns tabSize (s ++ t) = columns tabSize s + columns tabSize t := by
  induction s with
  | nil => simp [columns]
  | cons c s ih => simp [columns, ih, Nat.add_assoc]

/-- As long as tabs count, no character goes without a column. -/
theorem columns_eq_zero_iff {tabSize : Nat} (htab : 0 < tabSize) {t : Text} :
    columns tabSize t = 0 ↔ t = [] := by
  cases t with
  | nil => simp [columns]
  | cons c t =>
    have hc : 0 < charColumns tabSize c := by
      unfold charColumns
      split
      · exact htab
      · split <;> decide
    simp only [columns, reduceCtorEq, iff_false]
    omega

/-- The part of a text after its last line feed. -/
def lastLine (t : Text) : Text := takeEndWhile (· ≠ '\n') t

/-- The columns of the part after the last line feed. -/
def lastLineColumns (tabSize : Nat) (t : Text) : Nat := columns tabSize (lastLine t)

/-! ## Columns in a counter -/

/-- The columns of a text, summed up in a counter. -/
def columnsWith (arith : Arithmetic) (tabSize : Nat) (t : Text) : Except ArithmeticError Nat :=
  t.foldlM (fun n c => arith.fit (n + charColumns tabSize c)) 0

/-- The columns of the part after the last line feed, summed up in a counter. -/
def lastLineColumnsWith (arith : Arithmetic) (tabSize : Nat) (t : Text) :
    Except ArithmeticError Nat :=
  columnsWith arith tabSize (lastLine t)

/-- The sum is taken rightly if it is fitted once, at its end. -/
theorem columnsWith_eq (arith : Arithmetic) (tabSize : Nat) (t : Text) :
    columnsWith arith tabSize t = arith.fit (columns tabSize t) := by
  -- The same of a sum that some columns have gone into.
  have hfold : ∀ n, (arith.fit n >>= fun m =>
      t.foldlM (fun n c => arith.fit (n + charColumns tabSize c)) m) =
        arith.fit (n + columns tabSize t) := by
    induction t with
    | nil => exact fun n => bind_pure _
    | cons c t ih =>
      intro n
      simp only [List.foldlM_cons]
      rw [← bind_assoc, arith.fit_bind_add, ih, columns, Nat.add_assoc]
  have h := hfold 0
  rw [arith.fit_of_lt (by decide), Nat.zero_add] at h
  exact h

end NotebookLayout.Text
