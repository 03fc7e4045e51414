import NotebookLayout.Proofs.Report.Rows
import NotebookLayout.Proofs.Token.LineEnds

/-!
# Leaf rows of texts with carriage returns at their line ends

How the lines of a text end has a say in its leaves at one place only: in front of the line feed, a
carriage return joins a backslash to the unmatched double quote in front of it.

- `LeafRow.ofLexemes_withReturn`: carriage returns in line ends change no row;
- `Report.leafRows_crlf_iff`: the rows stay the same just if no unmatched quote comes in front of a
  backslash at the end of a line;
- `Report.leafRows_crlf_backslash`: the smallest text with such a quote.
-/

namespace NotebookLayout

open Text

namespace LeafRow

/-- There is a row for each lexeme that is no trivia. -/
theorem length_ofLexemes (tabSize line : Nat) (d : Indent) (xs : List Lexeme) :
    (ofLexemes tabSize line d xs).length = Lexeme.leafCount xs := by
  induction xs generalizing line d with
  | nil => rfl
  | cons x xs ih =>
    rw [ofLexemes, List.length_append, ih, Lexeme.leafCount_cons, Nat.add_comm]
    cases x.kind.isTrivia <;> rfl

/-- A line end goes to the next line and to its first column, with a carriage return or without. -/
theorem ofLexemes_withReturn {xs : List Lexeme} (hxs : ∀ x ∈ xs, x.Lawful)
    (tabSize line : Nat) (d : Indent) :
    ofLexemes tabSize line d (xs.map Lexeme.withReturn) = ofLexemes tabSize line d xs := by
  induction xs generalizing line d with
  | nil => rfl
  | cons x xs ih =>
    have ih := ih fun y hy => hxs y (List.mem_cons_of_mem x hy)
    by_cases hkind : x.kind = .newline
    · have hkind' : x.withReturn.kind = .newline := hkind
      have hcount : x.withReturn.text.count '\n' = x.text.count '\n' := count_crlf x.text
      rw [List.map_cons, ofLexemes, ofLexemes, ih, hcount, Lexeme.advance, Lexeme.advance, hkind,
        hkind']
      rfl
    · rw [List.map_cons, (hxs x List.mem_cons_self).withReturn_eq hkind, ofLexemes, ofLexemes, ih]

end LeafRow

namespace Report

/-- A carriage return in front of every line feed leaves the leaf rows as they are, unless an
unmatched double quote comes in front of a backslash at the end of a line: the two then make one
leaf, which takes the carriage return in, and there are fewer rows. -/
theorem leafRows_crlf_iff {t : Text} (ht : '\r' ∉ t) (tabSize : Nat) :
    ∃ rows rows', leafRows (.ofText t) tabSize = .ok rows ∧
      leafRows (.ofText t.crlf) tabSize = .ok rows' ∧
      (rows' = rows ↔ ¬Lexeme.Hangs (Lexeme.ofText t)) ∧
      (Lexeme.Hangs (Lexeme.ofText t) → rows'.length < rows.length) := by
  have hreturned := Lexeme.returned_ofText ht
  have hfewer : Lexeme.Hangs (Lexeme.ofText t) →
      (LeafRow.ofLexemes tabSize 0 0 (Lexeme.ofText t.crlf)).length <
        (LeafRow.ofLexemes tabSize 0 0 (Lexeme.ofText t)).length := by
    rw [LeafRow.length_ofLexemes, LeafRow.length_ofLexemes]
    exact hreturned.leafCount_le.2
  refine ⟨_, _, leafRows_eq_ok t tabSize, leafRows_eq_ok t.crlf tabSize, ⟨?_, ?_⟩, hfewer⟩
  · intro hrows hhangs
    exact absurd (congrArg List.length hrows) (Nat.ne_of_lt (hfewer hhangs))
  · intro hhangs
    rw [hreturned.eq_map hhangs]
    exact LeafRow.ofLexemes_withReturn (fun x hx => Lexeme.lawful_of_mem_ofText hx) tabSize 0 0

/-- An unmatched quote and a backslash at a line's end do not matter unless the one comes right in
front of the other. -/
theorem leafRows_crlf_quote_and_backslash :
    let t : Text := "say \"a b\n\tc \\\n\"d\\e\"".toList
    '\r' ∉ t ∧ ¬Lexeme.Hangs (Lexeme.ofText t) ∧
      leafRows (.ofText t.crlf) 4 = leafRows (.ofText t) 4 := by
  intro t
  have ht : '\r' ∉ t := by decide
  have hangs : ¬Lexeme.Hangs (Lexeme.ofText t) := by decide +kernel
  obtain ⟨rows, rows', hrows, hrows', hiff, -⟩ := leafRows_crlf_iff ht 4
  exact ⟨ht, hangs, by rw [hrows, hrows', hiff.2 hangs]⟩

/-- A quote and a backslash on a line are two leaves, and with a carriage return behind them one. -/
theorem leafRows_crlf_backslash :
    let t : Text := "\"\\\n".toList
    '\r' ∉ t ∧
      leafRows (.ofText t) 4 =
        .ok [⟨0, ['"'], 1, 0, 0, false⟩, ⟨0, ['\\'], 1, 0, 1, false⟩] ∧
      leafRows (.ofText t.crlf) 4 = .ok [⟨0, ['"', '\\', '\r'], 3, 0, 0, false⟩] := by
  decide +kernel

end Report

end NotebookLayout
