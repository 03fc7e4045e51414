import NotebookLayout.Leaf.Build
import NotebookLayout.Proofs.Document.Lines
import NotebookLayout.Token.Lexeme

/-!
# The leaf of a token

The builder measures a leaf with the line geometry of the document. Of a token that lies in the
text, the outcome depends on the token's own text alone:

- `step_of_isTrivia` and `step_of_not_isTrivia`: what becomes of a token, and `stepWith_of_isTrivia`
  and `stepWith_of_not_isTrivia` with counters;
- `isMultiline_eq`: the leaf runs over several lines just if its text holds a line feed;
- `width_eq`: its width is the columns of its text after the last line feed.
-/

namespace NotebookLayout.Layout

open Text

/-- Trivia makes the gap longer. -/
theorem step_of_isTrivia (layout : Layout) {token : Token} (h : token.kind.isTrivia = true)
    (chain : LeafChain) (gap : Gap) :
    layout.step (chain, gap) token = (chain, gap.append layout.tabSize token.text) := if_pos h

/-- Any other token becomes a leaf behind the gap. -/
theorem step_of_not_isTrivia (layout : Layout) {token : Token}
    (h : ¬token.kind.isTrivia = true) (chain : LeafChain) (gap : Gap) :
    layout.step (chain, gap) token =
      (chain.push (layout.leaf token gap), .empty token.span.stop) := if_neg h

/-- Trivia makes the gap longer, with counters too. -/
theorem stepWith_of_isTrivia (arith : Arithmetic) (layout : Layout) {token : Token}
    (h : token.kind.isTrivia = true) (chain : LeafChain) (gap : Gap) :
    layout.stepWith arith (chain, gap) token =
      (gap.appendWith arith layout.tabSize token.text >>= fun gap => return (chain, gap)) :=
  if_pos h

/-- Any other token becomes a leaf behind the gap, with counters too. -/
theorem stepWith_of_not_isTrivia (arith : Arithmetic) (layout : Layout) {token : Token}
    (h : ¬token.kind.isTrivia = true) (chain : LeafChain) (gap : Gap) :
    layout.stepWith arith (chain, gap) token =
      (layout.leafWith arith token gap >>= fun leaf =>
        return (chain.push leaf, .empty token.span.stop)) :=
  if_neg h

/-- The tokens of a text start where the text does. -/
theorem firstGap_ofText (t : Text) : firstGap (Token.ofText t) = .empty 0 := by
  rw [firstGap, Token.ofText]
  cases Lexeme.ofText t <;> rfl

/-- Leaves of a text are built from its start. -/
theorem build_ofText (layout : Layout) (t : Text) :
    layout.build (Token.ofText t) =
      (Token.ofText t).foldl layout.step (.empty, .empty 0) := by
  rw [build, firstGap_ofText]

variable {layout : Layout} {token : Token} {a b : Text}
  (hmetrics : layout.metrics = (Document.ofText (a ++ token.text ++ b)).metrics)
  (hspan : token.span = ⟨byteSize a, byteSize (a ++ token.text)⟩)

include hmetrics hspan

/-- The lines that the token starts and ends on. -/
theorem lineOf_span :
    layout.metrics.lineOf token.span.start = a.count '\n' ∧
      layout.metrics.lineOf token.span.stop = a.count '\n' + token.text.count '\n' := by
  rw [hmetrics, hspan]
  constructor
  · rw [List.append_assoc]
    exact LineIndex.lineOf_byteSize a (token.text ++ b)
  · rw [← List.count_append]
    exact LineIndex.lineOf_byteSize (a ++ token.text) b

/-- The token runs over several lines just if its text has a line feed. -/
theorem isMultiline_eq : layout.isMultiline token = decide ('\n' ∈ token.text) := by
  obtain ⟨hstart, hstop⟩ := lineOf_span hmetrics hspan
  rw [isMultiline, hstart, hstop, decide_eq_decide, ← List.count_pos_iff]
  omega

/-- Where the token's last line starts, counted from where the token starts. -/
theorem lastLineStart_eq :
    layout.lastLineStart token = byteSize a + byteSize (wholeLines token.text) := by
  rw [lastLineStart, isMultiline_eq hmetrics hspan]
  by_cases h : '\n' ∈ token.text
  · -- The line that the token ends on starts inside the token.
    rw [if_pos (decide_eq_true h), hmetrics, hspan]
    have hline := LineIndex.startOf_lineOf_byteSize (a ++ token.text) b
    rwa [(wholeLines_append_of_mem a h).1, byteSize_append a (wholeLines token.text)] at hline
  · rw [if_neg (by simpa using h), (wholeLines_of_notMem h).1, hspan]
    rfl

/-- Dropping the whole lines of the token's text leaves its last line. -/
theorem lastPart_eq : layout.lastPart token = lastLine token.text := by
  have hdrop : dropBytes? (byteSize (wholeLines token.text)) token.text =
      some (lastLine token.text) := by
    have h := splitAt?_append (wholeLines token.text) (lastLine token.text)
    rw [wholeLines_append_lastLine] at h
    rw [dropBytes?, h]
    rfl
  rw [lastPart, lastLineStart_eq hmetrics hspan, hspan]
  dsimp only
  rw [Nat.add_sub_cancel_left, hdrop]
  rfl

/-- A token is as wide as its text behind the last line feed. -/
theorem width_eq : layout.width token = lastLineColumns layout.tabSize token.text := by
  rw [width, lastPart_eq hmetrics hspan]
  rfl

/-- A token without line feeds counts with all its columns. -/
theorem width_of_notMem (h : '\n' ∉ token.text) :
    layout.width token = columns layout.tabSize token.text := by
  rw [width_eq hmetrics hspan, lastLineColumns, (wholeLines_of_notMem h).2]

end NotebookLayout.Layout
