import Mathlib.Data.List.Induction
import NotebookLayout.Leaf.Columns
import NotebookLayout.Leaf.Gap
import NotebookLayout.Proofs.Document.Lines

/-!
# What a gap measures

Putting a text at the end of a gap counts the line feeds of the text and measures what follows the
last of them:

- `lineFeeds_append`: the line feeds;
- `indent_append`: the indent, in tabs and in all other characters but carriage returns;
- `total_spacing_add_count`: without wide characters, the indent and the carriage returns are the
  text's columns;
- `measure_eq`: all that a gap measures;
- `total_measure`: on white space, a gap measures the columns that a leaf would have.
-/

namespace NotebookLayout

attribute [ext] Indent

namespace Gap

open Text

/-- The columns of white space: each tab counts as `tabSize`, a carriage return as none and any
other character as one. -/
def spacing (tabSize : Nat) (t : Text) : Indent :=
  ⟨tabSize * t.count '\t', t.countP fun c => c ≠ '\t' && c ≠ '\r'⟩

/-- On a line, every character adds its own columns to those in front of it. -/
theorem indentAfter_spacing {c : Char} (hc : c ≠ '\n') (tabSize : Nat) (d : Indent) (t : Text) :
    indentAfter tabSize (d + spacing tabSize t) c = d + spacing tabSize (t ++ [c]) := by
  unfold indentAfter
  split
  · exact absurd rfl hc
  · ext <;> simp [spacing]
  · ext <;> simp [spacing, Nat.mul_add, Nat.add_assoc]
  next hr ht =>
    have ht : c ≠ '\t' := ht
    have hr : c ≠ '\r' := hr
    ext <;> simp [spacing, ht, hr, Nat.add_assoc]

/-- The last character of a text comes after all others. -/
theorem append_concat (tabSize : Nat) (g : Gap) (t : Text) (c : Char) :
    append tabSize g (t ++ [c]) = push tabSize (append tabSize g t) c := by
  rw [append, List.foldl_append]
  rfl

/-- A gap counts the line feeds of what is put at its end. -/
theorem lineFeeds_append (tabSize : Nat) (g : Gap) (t : Text) :
    (append tabSize g t).lineFeeds = g.lineFeeds + t.count '\n' := by
  induction t using List.reverseRecOn with
  | nil => rfl
  | append_singleton t c ih =>
    rw [append_concat, List.count_append, ← Nat.add_assoc, ← ih]
    by_cases hc : c = '\n'
    · simp [push, hc]
    · simp [push, hc]

/-- It goes over the end of a line if it did before or the text has one. -/
theorem hasLineFeed_append (tabSize : Nat) (g : Gap) (t : Text) :
    (append tabSize g t).hasLineFeed = true ↔ g.hasLineFeed = true ∨ '\n' ∈ t := by
  simp only [hasLineFeed, lineFeeds_append, decide_eq_true_iff, ← List.count_pos_iff]
  omega

/-- A text without line feeds changes nothing about that. -/
theorem hasLineFeed_append_of_notMem (tabSize : Nat) (g : Gap) {t : Text} (ht : '\n' ∉ t) :
    (append tabSize g t).hasLineFeed = g.hasLineFeed := by
  rw [hasLineFeed, lineFeeds_append, List.count_eq_zero.2 ht, Nat.add_zero]
  rfl

/-- Only what follows the last line feed counts, and a line feed does away with what was there. -/
theorem indent_append (tabSize : Nat) (g : Gap) (t : Text) :
    (append tabSize g t).indent =
      (if '\n' ∈ t then 0 else g.indent) + spacing tabSize (lastLine t) := by
  induction t using List.reverseRecOn with
  | nil => rfl
  | append_singleton t c ih =>
    rw [append_concat]
    by_cases hc : c = '\n'
    · rw [hc, (wholeLines_of_endsLine (endsLine_newline t)).2, if_pos (by simp)]
      rfl
    · -- Whether there was a feed before, and what came after it, stay as they were.
      have hmem : '\n' ∈ t ++ [c] ↔ '\n' ∈ t := by simp [Ne.symm hc]
      have hlast := (wholeLines_append_of_notMem t (v := [c]) (by simpa using Ne.symm hc)).2
      rw [hlast, if_congr hmem rfl rfl, ← indentAfter_spacing hc, ← ih]
      rfl

/-- Without wide characters, both ways to count columns differ in the carriage returns alone. -/
theorem total_spacing_add_count (tabSize : Nat) {t : Text}
    (h : ∀ c ∈ t, Text.isFullwidth c = false) :
    (spacing tabSize t).total + t.count '\r' = columns tabSize t := by
  induction t with
  | nil => rfl
  | cons c t ih =>
    have hwide := h c List.mem_cons_self
    have ih := ih fun d hd => h d (List.mem_cons_of_mem c hd)
    rw [columns, charColumns, hwide, ← ih]
    -- Both sides count a tab as `tabSize` and any other character as one, but on the left it is the
    -- number of carriage returns that a carriage return adds to.
    by_cases ht : c = '\t'
    · simp [spacing, Indent.total, ht, Nat.mul_add]
      omega
    · by_cases hr : c = '\r'
      · simp [spacing, Indent.total, hr]
        omega
      · simp [spacing, Indent.total, ht, hr]
        omega

/-- Without carriage returns and wide characters, both ways to count columns agree. -/
theorem total_spacing (tabSize : Nat) {t : Text}
    (h : ∀ c ∈ t, c ≠ '\r' ∧ Text.isFullwidth c = false) :
    (spacing tabSize t).total = columns tabSize t := by
  have hcount : t.count '\r' = 0 := List.count_eq_zero.2 fun hmem => (h _ hmem).1 rfl
  rw [← total_spacing_add_count tabSize fun c hc => (h c hc).2, hcount, Nat.add_zero]

/-! ## Whole gaps -/

/-- The indent of a gap is what its text has behind the last line feed. -/
theorem indent_measure (tabSize offset : Nat) (t : Text) :
    (measure tabSize offset t).indent = spacing tabSize (lastLine t) := by
  have hempty : (if '\n' ∈ t then 0 else (empty offset).indent) = 0 := ite_self 0
  rw [measure, indent_append, hempty]
  ext <;> simp

/-- All that a gap measures. -/
theorem measure_eq (tabSize offset : Nat) (t : Text) :
    measure tabSize offset t =
      ⟨⟨offset, offset + byteSize t⟩, spacing tabSize (lastLine t), t.count '\n'⟩ := by
  have hfeeds : (measure tabSize offset t).lineFeeds = t.count '\n' := by
    rw [measure, lineFeeds_append]
    exact Nat.zero_add _
  rw [← span_measure tabSize offset t, ← indent_measure tabSize offset t, ← hfeeds]

/-- In white space in which a line feed follows every carriage return, a gap has the columns that
count for the width of a leaf. -/
theorem total_measure (tabSize offset : Nat) {t : Text}
    (hchars : t ⊆ [' ', '\t', '\x0c', '\r', '\n'])
    (hreturn : ∀ i, t[i]? = some '\r' → t[i + 1]? = some '\n') :
    (measure tabSize offset t).indent.total = lastLineColumns tabSize t := by
  have hnarrow : [' ', '\t', '\x0c', '\r', '\n'].all (!isFullwidth ·) = true := by decide
  have hwide : ∀ c ∈ lastLine t, isFullwidth c = false := by
    intro c hc
    have hmem := List.mem_append_right (wholeLines t) hc
    rw [wholeLines_append_lastLine] at hmem
    simpa using List.all_eq_true.1 hnarrow c (hchars hmem)
  have hnone : (lastLine t).count '\r' = 0 := List.count_eq_zero.2 (return_notMem_lastLine hreturn)
  rw [indent_measure, lastLineColumns, ← total_spacing_add_count tabSize hwide, hnone, Nat.add_zero]

end Gap

end NotebookLayout
