import Mathlib.Data.List.Basic
import NotebookLayout.Proofs.Leaf.Position
import NotebookLayout.Proofs.Token.Tokens
import NotebookLayout.Report.Basic

/-!
# Leaf rows

What a report says about the leaves of a text depends on the lexemes alone, and on no lexeme of
another line:

- `LeafRow.ofLexemes`: the rows, told by recursion on the lexemes;
- `Reported.step` and `Reported.run`: the builder keeps the rows of its chain in step with them;
- `leafRows_eq_ok`: so every text has rows, and they are those of its lexemes;
- `leafRows_lines`: the rows of a text are those of its lines, line by line.
-/

namespace NotebookLayout

open Text

/-! ## Rows of lexemes -/

/-- The columns from the start of the line to the end of a lexeme that begins at `d`. -/
def Lexeme.advance (tabSize : Nat) (d : Indent) (x : Lexeme) : Indent :=
  match x.kind with
  | .newline => 0
  | .whitespace => d + Gap.spacing tabSize x.text
  | _ => d + .ofSpaces (columns tabSize x.text)

/-- A lexeme that is no trivia moves the place by its columns. -/
theorem Lexeme.advance_of_isTrivia {x : Lexeme} (h : x.kind.isTrivia = false) (tabSize : Nat)
    (d : Indent) : x.advance tabSize d = d + .ofSpaces (columns tabSize x.text) := by
  unfold advance
  split
  next hkind => simp [hkind, TokenKind.isTrivia] at h
  next hkind => simp [hkind, TokenKind.isTrivia] at h
  next => rfl

namespace LeafRow

/-- The row of a lexeme that is no trivia and begins at `d` on a line. -/
def ofLexeme (tabSize line : Nat) (d : Indent) (x : Lexeme) : LeafRow where
  line := line
  text := Document.shorten previewSize x.text
  width := columns tabSize x.text
  indentSpaces := d.indentSpaces
  spaces := d.spaces
  readOnly := false

/-- The rows of some lexemes, the first of which begins at `d` on a line. -/
def ofLexemes (tabSize line : Nat) (d : Indent) : List Lexeme → List LeafRow
  | [] => []
  | x :: xs =>
    (if x.kind.isTrivia then [] else [ofLexeme tabSize line d x]) ++
      ofLexemes tabSize (line + x.text.count '\n') (x.advance tabSize d) xs

/-- The rows of the second part go on from where the first part leads to. -/
theorem ofLexemes_append (tabSize line : Nat) (d : Indent) (xs ys : List Lexeme) :
    ofLexemes tabSize line d (xs ++ ys) = ofLexemes tabSize line d xs ++
      ofLexemes tabSize (line + (xs.flatMap (·.text)).count '\n')
        (xs.foldl (Lexeme.advance tabSize) d) ys := by
  induction xs generalizing line d with
  | nil => rfl
  | cons x xs ih =>
    rw [List.cons_append, ofLexemes, ofLexemes, ih, List.append_assoc, List.flatMap_cons,
      List.count_append, ← Nat.add_assoc, List.foldl_cons]

/-- The row put on a line. -/
def onLine (line : Nat) (row : LeafRow) : LeafRow := { row with line }

/-- The lexemes of a single line all have the line that the first one begins on. -/
theorem map_onLine_ofLexemes {xs : List Lexeme} (hxs : ∀ x ∈ xs, x.text ≠ [])
    (hline : '\n' ∉ (xs.flatMap (·.text)).dropLast) (tabSize k line : Nat) (d : Indent) :
    (ofLexemes tabSize k d xs).map (onLine line) = ofLexemes tabSize line d xs := by
  induction xs generalizing d k with
  | nil => rfl
  | cons x xs ih =>
    have hrow : (if x.kind.isTrivia then [] else [ofLexeme tabSize k d x]).map (onLine line) =
        if x.kind.isTrivia then [] else [ofLexeme tabSize line d x] := by
      split <;> rfl
    rw [ofLexemes, ofLexemes, List.map_append, hrow]
    cases xs with
    | nil => rfl
    | cons y ys =>
      -- Something comes after `x`, so the line feed at the end of the line is not in `x`.
      have hne : (y :: ys).flatMap (·.text) ≠ [] := by
        have hy := hxs y (by simp)
        simp [hy]
      rw [List.flatMap_cons, List.dropLast_append_of_ne_nil hne, List.mem_append, not_or] at hline
      rw [ih (fun z hz => hxs z (List.mem_cons_of_mem x hz)) hline.2,
        List.count_eq_zero.2 hline.1, Nat.add_zero]

end LeafRow

/-- After a text that ends a line, the next lexeme begins a line. -/
theorem Lexeme.foldl_advance_ofText {u : Text} (hu : EndsLine u) (tabSize : Nat) :
    (ofText u).foldl (advance tabSize) 0 = 0 := by
  rcases List.eq_nil_or_concat (ofText u) with hnil | ⟨xs, x, hxs⟩
  · rw [hnil]
    rfl
  · rw [List.concat_eq_append] at hxs
    have hx : x ∈ ofText u := by rw [hxs]; simp
    -- The last lexeme ends with the line feed at the end of the text.
    have hends : EndsLine x.text := by
      rw [← flatMap_text_ofText u, hxs, List.flatMap_append, List.flatMap_singleton] at hu
      exact endsLine_of_append hu
    have hmem : '\n' ∈ x.text := List.mem_of_getLast? (hends.resolve_left (text_ne_nil hx))
    have hkind : x.kind = .newline := (lawful_of_mem_ofText hx).kind_eq_newline hmem
    rw [hxs, List.foldl_append, List.foldl_cons, List.foldl_nil, advance, hkind]

/-! ## Rows of a chain -/

/-- Functions that agree on a list map it alike. -/
theorem mapM_congr_of_mem {α β : Type} {f g : α → Option β} {l : List α}
    (h : ∀ x ∈ l, f x = g x) : l.mapM f = l.mapM g := by
  induction l with
  | nil => rfl
  | cons x l ih =>
    rw [List.mapM_cons, List.mapM_cons, h x List.mem_cons_self,
      ih fun y hy => h y (List.mem_cons_of_mem x hy)]

namespace LeafRow

/-- The rows of a chain are found leaf by leaf. -/
theorem ofChain?_eq_mapM (doc : Document) (chain : LeafChain) :
    ofChain? doc chain = chain.leaves.mapM fun l => ofLeaf? doc chain l.1 l.2 := by
  rw [LeafChain.leaves, List.mapM_map]
  rfl

/-- A leaf more gives one row more, and changes no other row. -/
theorem ofChain?_push {doc : Document} {chain : LeafChain} {leaf : Leaf} {rows : List LeafRow}
    {row : LeafRow} (hrows : ofChain? doc chain = some rows)
    (hrow : ofLeaf? doc (chain.push leaf) chain.nextId leaf = some row) :
    ofChain? doc (chain.push leaf) = some (rows ++ [row]) := by
  have hkept : chain.leaves.mapM (fun l => ofLeaf? doc (chain.push leaf) l.1 l.2) =
      ofChain? doc chain := by
    rw [ofChain?_eq_mapM]
    refine mapM_congr_of_mem fun l hmem => ?_
    have hlive : chain.IsLive l.1 := LeafChain.isLive_of_mem_leaves hmem
    rw [ofLeaf?, ofLeaf?, chain.indent?_push leaf hlive.ne_nextId]
  rw [ofChain?_eq_mapM, LeafChain.leaves_push, List.mapM_append, hkept, hrows, List.mapM_cons,
    hrow]
  rfl

end LeafRow

/-! ## Rows of a text -/

namespace Layout

/-- The rows of what the builder has made, and the place that it has come to. -/
structure Reported (doc : Document) (rows : List LeafRow) (d : Indent) (state : LeafChain × Gap) :
    Prop where
  rows_eq : LeafRow.ofChain? doc state.1 = some rows
  indent_eq : state.1.indentAfter state.2 = d

variable {layout : Layout} {doc : Document} {rows : List LeafRow} {d : Indent}
  (hmetrics : layout.metrics = doc.metrics) (hreadOnly : layout.readOnly = [])

/-- Trivia gives no row, and moves the place that the builder has come to. -/
theorem Reported.append_trivia {chain : LeafChain} {gap : Gap}
    (h : Reported doc rows d (chain, gap)) {x : Lexeme} (hx : x.Lawful)
    (htrivia : x.kind.isTrivia = true) (tabSize : Nat) :
    Reported doc rows (x.advance tabSize d) (chain, gap.append tabSize x.text) where
  rows_eq := h.rows_eq
  indent_eq := by
    have hindent : chain.indentAfter gap = d := h.indent_eq
    rcases hx.trivia_cases htrivia with ⟨hkind, -, hfeed⟩ | ⟨hkind, w, hw⟩
    · rw [LeafChain.indentAfter_append hfeed, hindent, Lexeme.advance, hkind]
    · rw [hw, LeafChain.indentAfter_append_newline, Lexeme.advance, hkind]

include hmetrics hreadOnly

/-- One lexeme more, at its place in the text. -/
theorem Reported.step {state : LeafChain × Gap} (h : Reported doc rows d state) {x : Lexeme}
    (hx : x.Lawful) {a b : Text} (hdoc : doc = .ofText (a ++ x.text ++ b)) :
    let token : Token := ⟨x.kind, x.text, ⟨byteSize a, byteSize a + byteSize x.text⟩⟩
    let more := if x.kind.isTrivia then [] else
      [LeafRow.ofLexeme layout.tabSize (a.count '\n') d x]
    Reported doc (rows ++ more) (x.advance layout.tabSize d) (layout.step state token) := by
  intro token more
  obtain ⟨chain, gap⟩ := state
  by_cases htrivia : x.kind.isTrivia = true
  · have hmore : more = [] := if_pos htrivia
    rw [layout.step_of_isTrivia htrivia, hmore, List.append_nil]
    exact h.append_trivia hx htrivia layout.tabSize
  · have hmore : more = [LeafRow.ofLexeme layout.tabSize (a.count '\n') d x] := if_neg htrivia
    have hfalse : x.kind.isTrivia = false := Bool.eq_false_iff.2 htrivia
    have hspan : token.span = ⟨byteSize a, byteSize (a ++ token.text)⟩ := by
      rw [byteSize_append]
    have hmetrics' : layout.metrics = (Document.ofText (a ++ token.text ++ b)).metrics :=
      hmetrics.trans (by rw [hdoc])
    have hwidth : layout.width token = columns layout.tabSize x.text :=
      width_of_notMem hmetrics' hspan (hx.newline_notMem hfalse)
    have hline : doc.metrics.lineOf token.span.start = a.count '\n' := by
      rw [← hmetrics]
      exact (lineOf_span hmetrics' hspan).1
    have htext : doc.slice? token.span = some x.text := by
      rw [hdoc]
      exact slice?_append a x.text b
    have hindent : chain.indentAfter gap = d := h.indent_eq
    -- The place that the builder has come to is the indent of the leaf that is pushed now.
    have hrow : LeafRow.ofLeaf? doc (chain.push (layout.leaf token gap)) chain.nextId
        (layout.leaf token gap) =
          some (LeafRow.ofLexeme layout.tabSize (a.count '\n') d x) := by
      rw [LeafRow.ofLeaf?, chain.indent?_push_nextId, LeafRow.behind?, Document.preview?]
      dsimp only [leaf]
      rw [htext, hline, hwidth, hindent, hreadOnly]
      rfl
    rw [layout.step_of_not_isTrivia htrivia, hmore]
    constructor
    · exact LeafRow.ofChain?_push h.rows_eq hrow
    · rw [LeafChain.indentAfter_push, Lexeme.advance_of_isTrivia hfalse, ← hwidth, ← hindent]
      rfl

/-- Along all lexemes of a text, the rows are those of the lexemes. -/
theorem Reported.run {xs : List Lexeme} (hxs : ∀ x ∈ xs, x.Lawful) {a : Text}
    (hdoc : doc = .ofText (a ++ xs.flatMap (·.text))) {state : LeafChain × Gap}
    (h : Reported doc rows d state) :
    Reported doc (rows ++ LeafRow.ofLexemes layout.tabSize (a.count '\n') d xs)
      (xs.foldl (Lexeme.advance layout.tabSize) d)
      ((Token.place (byteSize a) xs).foldl layout.step state) := by
  induction xs generalizing a rows d state with
  | nil =>
    rw [LeafRow.ofLexemes, List.append_nil]
    exact h
  | cons x xs ih =>
    rw [List.flatMap_cons, ← List.append_assoc] at hdoc
    have hstep := h.step hmetrics hreadOnly (hxs x List.mem_cons_self) hdoc
    have hrest := ih (fun y hy => hxs y (List.mem_cons_of_mem x hy)) hdoc hstep
    rw [List.append_assoc, List.count_append, byteSize_append] at hrest
    exact hrest

/-- In the end, the rows are those of all lexemes. -/
theorem reported_build {t : Text} (hdoc : doc = .ofText t) :
    Reported doc (LeafRow.ofLexemes layout.tabSize 0 0 (Lexeme.ofText t))
      ((Lexeme.ofText t).foldl (Lexeme.advance layout.tabSize) 0)
      (layout.build (Token.ofText t)) := by
  have hempty : Reported doc [] 0 (.empty, .empty 0) := ⟨rfl, rfl⟩
  have htext : doc = .ofText ([] ++ (Lexeme.ofText t).flatMap (·.text)) := by
    rw [hdoc, Lexeme.flatMap_text_ofText, List.nil_append]
  have h := hempty.run hmetrics hreadOnly (fun x hx => Lexeme.lawful_of_mem_ofText hx) htext
  rw [build_ofText]
  exact h

end Layout

namespace Report

/-- The rows of the chain that is built of a text. -/
theorem ofChain?_build (t : Text) (tabSize : Nat) :
    let layout : Layout := { metrics := (Document.ofText t).metrics, tabSize }
    LeafRow.ofChain? (.ofText t) (layout.build (Token.ofText t)).1 =
      some (LeafRow.ofLexemes tabSize 0 0 (Lexeme.ofText t)) :=
  (Layout.reported_build rfl rfl rfl).rows_eq

/-- Every text has leaf rows, and they are those of its lexemes. -/
theorem leafRows_eq_ok (t : Text) (tabSize : Nat) :
    leafRows (.ofText t) tabSize =
      .ok (LeafRow.ofLexemes tabSize 0 0 (Lexeme.ofText t)) := by
  have hrows := ofChain?_build t tabSize
  simp only [leafRows]
  split
  next rows heq => rw [Option.some.inj (heq.symm.trans hrows)]
  next heq => exact absurd (heq.symm.trans hrows) (by simp)

/-- The rows of lines joined are those of the lines, each put on its line. -/
theorem ofLexemes_flatten (ls : List Text)
    (hls : ∀ pre line post, ls = pre ++ line :: post →
      IsFullLine line ∨ post = [] ∧ '\n' ∉ line) (tabSize k : Nat) :
    LeafRow.ofLexemes tabSize k 0 (Lexeme.ofText ls.flatten) =
      ((ls.map fun line => LeafRow.ofLexemes tabSize 0 0 (Lexeme.ofText line)).mapIdx
        fun i rows => rows.map (LeafRow.onLine (k + i))).flatten := by
  induction ls generalizing k with
  | nil => rw [List.flatten_nil, Lexeme.ofText]; rfl
  | cons line rest ih =>
    have hrest := ih (fun pre l post h => hls (line :: pre) l post (by rw [h]; rfl)) (k + 1)
    -- A line feed is nowhere in the line but at its end.
    have hfeed : '\n' ∉ ((Lexeme.ofText line).flatMap (·.text)).dropLast := by
      rw [Lexeme.flatMap_text_ofText]
      rcases hls [] line rest rfl with ⟨body, rfl, hbody⟩ | ⟨-, hline⟩
      · rwa [List.dropLast_concat]
      · exact fun hmem => hline (List.dropLast_subset _ hmem)
    have hrow := LeafRow.map_onLine_ofLexemes (fun x hx => Lexeme.text_ne_nil hx) hfeed
      tabSize 0 k 0
    rw [List.map_cons, List.mapIdx_cons, List.flatten_cons, List.flatten_cons, Nat.add_zero, hrow]
    rcases hls [] line rest rfl with ⟨body, rfl, hbody⟩ | ⟨rfl, -⟩
    · -- The lexemes of a full line end where the line does.
      have hends : EndsLine (body ++ ['\n']) := endsLine_newline body
      have hcount : (body ++ ['\n']).count '\n' = 1 := by
        rw [List.count_append, List.count_eq_zero.2 hbody]
        rfl
      rw [Lexeme.ofText_append hends, LeafRow.ofLexemes_append, Lexeme.flatMap_text_ofText, hcount,
        Lexeme.foldl_advance_ofText hends, hrest]
      simp only [Nat.add_assoc, Nat.add_comm 1]
    · rw [List.flatten_nil, List.append_nil]
      exact (List.append_nil _).symm

/-- The rows of a text are those of its lines, each line read as a text of its own and its rows put
on the line that it is. -/
theorem leafRows_lines (t : Text) (tabSize : Nat) :
    let doc := Document.ofText t
    ∃ parts, doc.lines.mapM (fun line => leafRows (.ofText line.text) tabSize) = .ok parts ∧
      leafRows doc tabSize =
        .ok (parts.mapIdx fun i rows => rows.map fun row => { row with line := i }).flatten := by
  intro doc
  let rowsOf (line : Text) := LeafRow.ofLexemes tabSize 0 0 (Lexeme.ofText line)
  have hlines : doc.lines.map (·.text) = splitLines t := Line.map_text_place 0 (splitLines t)
  refine ⟨(splitLines t).map rowsOf, ?_, ?_⟩
  · simp only [leafRows_eq_ok]
    rw [← hlines, List.map_map]
    exact List.mapM_pure
  · have h := ofLexemes_flatten (splitLines t) (fun pre line post h => isFullLine_of_splitLines h)
      tabSize 0
    rw [flatten_splitLines] at h
    simp only [Nat.zero_add] at h
    rw [leafRows_eq_ok, h]
    rfl

end Report

end NotebookLayout
