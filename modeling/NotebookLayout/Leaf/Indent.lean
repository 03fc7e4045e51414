import NotebookLayout.Arithmetic

/-!
# Indents

A horizontal position, told as columns that tabs in front make up and columns of anything else. Sums
of indents are exact; `Indent.fit` tells what counters make of one.
-/

namespace NotebookLayout

/-- A number of columns in two parts. -/
structure Indent where
  /-- Columns made up by tabs between leaves. -/
  indentSpaces : Nat
  /-- All other columns. -/
  spaces : Nat
  deriving DecidableEq

namespace Indent

instance : Zero Indent := ⟨⟨0, 0⟩⟩

instance : Add Indent := ⟨fun a b => ⟨a.indentSpaces + b.indentSpaces, a.spaces + b.spaces⟩⟩

/-- Columns of which tabs make up none. -/
def ofSpaces (n : Nat) : Indent := ⟨0, n⟩

/-- All columns. -/
def total (d : Indent) : Nat := d.indentSpaces + d.spaces

@[simp] theorem indentSpaces_zero : (0 : Indent).indentSpaces = 0 := rfl

@[simp] theorem spaces_zero : (0 : Indent).spaces = 0 := rfl

@[simp] theorem indentSpaces_add (a b : Indent) :
    (a + b).indentSpaces = a.indentSpaces + b.indentSpaces := rfl

@[simp] theorem spaces_add (a b : Indent) : (a + b).spaces = a.spaces + b.spaces := rfl

/-- The columns of a sum are those of its parts. -/
theorem total_add (a b : Indent) : (a + b).total = a.total + b.total := by
  simp only [total, indentSpaces_add, spaces_add]
  omega

/-! ## Indents in counters -/

/-- What two counters hold after sums with these exact values. -/
def fit (arith : Arithmetic) (d : Indent) : Except ArithmeticError Indent := do
  let indentSpaces ← arith.fit d.indentSpaces
  let spaces ← arith.fit d.spaces
  return ⟨indentSpaces, spaces⟩

/-- All columns, summed up in a counter. -/
def totalWith (arith : Arithmetic) (d : Indent) : Except ArithmeticError Nat := arith.fit d.total

/-- The sum of all columns is zero. -/
def isEmptyWith (arith : Arithmetic) (d : Indent) : Except ArithmeticError Bool :=
  (· == 0) <$> d.totalWith arith

/-- Both parts fit in counters. -/
def Fits (d : Indent) : Prop := d.indentSpaces < wordLimit ∧ d.spaces < wordLimit

/-- Both parts with their high bits lost. -/
def wrap (d : Indent) : Indent := ⟨d.indentSpaces % wordLimit, d.spaces % wordLimit⟩

@[simp] theorem fit_wrapping (d : Indent) : d.fit .wrapping = .ok d.wrap := rfl

/-- An indent that fits is kept as it is. -/
theorem Fits.fit {d : Indent} (h : d.Fits) (arith : Arithmetic) : d.fit arith = .ok d := by
  rw [Indent.fit, arith.fit_of_lt h.1, arith.fit_of_lt h.2]
  rfl

end Indent

end NotebookLayout
