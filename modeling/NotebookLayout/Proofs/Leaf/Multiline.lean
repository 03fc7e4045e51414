import Mathlib.Algebra.GroupWithZero.Nat
import NotebookLayout.Proofs.Leaf.Position
import NotebookLayout.Proofs.Token.Tiling

/-!
# Leaves of several lines

The walk back stops at gaps that go over the end of a line, but not at a leaf whose own text does.
Such a leaf counts with the columns of its last line, and what stands in front of it on its first
line counts as well:

- `Document.column`: the columns that the text has in front of an offset;
- `overshoot`: the columns in front of those of some leaves that run over several lines;
- `Located.step` and `Located.run`: whatever tokens the text is cut into, the builder puts a leaf at
  its column and the overshoot of the leaves visited;
- `indent?_build_tiling`: so a leaf is at its column just if every leaf of several lines that the
  walk visits begins its line.
-/

namespace NotebookLayout

open Text

/-! ## Columns of a document -/

namespace Document

/-- Where the line starts that an offset is on. -/
def lineStart (doc : Document) (offset : Nat) : Nat :=
  doc.metrics.startOf (doc.metrics.lineOf offset)

/-- The columns of the text from the start of an offset's line up to the offset; none for an offset
inside a character. -/
def column (doc : Document) (tabSize offset : Nat) : Nat :=
  columns tabSize ((doc.slice? ⟨doc.lineStart offset, offset⟩).getD [])

/-- A line starts behind the whole lines in front of the offset. -/
theorem lineStart_byteSize (u v : Text) :
    (ofText (u ++ v)).lineStart (byteSize u) = byteSize (wholeLines u) :=
  LineIndex.startOf_lineOf_byteSize u v

/-- From there to the offset there is what stands in front of it on its line. -/
theorem slice?_lineStart (u v : Text) :
    (ofText (u ++ v)).slice? ⟨(ofText (u ++ v)).lineStart (byteSize u), byteSize u⟩ =
      some (lastLine u) :=
  LineIndex.slice?_lineStart u v

/-- The column of an offset is that of the last line in front of it. -/
theorem column_byteSize (tabSize : Nat) (u v : Text) :
    (ofText (u ++ v)).column tabSize (byteSize u) = columns tabSize (lastLine u) := by
  rw [column, slice?_lineStart]
  rfl

/-- No columns are in front of an offset just if its line starts there. -/
theorem column_eq_zero_iff {tabSize : Nat} (htab : 0 < tabSize) (u v : Text) :
    (ofText (u ++ v)).column tabSize (byteSize u) = 0 ↔
      (ofText (u ++ v)).lineStart (byteSize u) = byteSize u := by
  rw [column_byteSize, columns_eq_zero_iff htab, lineStart_byteSize, ← byteSize_eq_zero_iff]
  have h := congrArg byteSize (wholeLines_append_lastLine u)
  rw [byteSize_append] at h
  omega

end Document

namespace Layout

/-! ## Leaves of several lines on a walk -/

/-- The columns in front of those of some leaves that run over several lines, all together. -/
def overshoot (doc : Document) (tabSize : Nat) (leaves : List (LeafId × Leaf)) : Nat :=
  ((leaves.filter (·.2.multiline)).map fun e => doc.column tabSize e.2.span.start).sum

/-- Each leaf of several lines adds the column that it starts at. -/
theorem overshoot_cons (doc : Document) (tabSize : Nat) (e : LeafId × Leaf)
    (leaves : List (LeafId × Leaf)) :
    overshoot doc tabSize (e :: leaves) =
      (if e.2.multiline then doc.column tabSize e.2.span.start else 0) +
        overshoot doc tabSize leaves := by
  by_cases h : e.2.multiline = true
  · simp [overshoot, h]
  · simp [overshoot, h]

/-- Nothing is added if all of these start lines. -/
theorem overshoot_eq_zero_iff {doc : Document} {tabSize : Nat} {leaves : List (LeafId × Leaf)} :
    overshoot doc tabSize leaves = 0 ↔
      ∀ e ∈ leaves, e.2.multiline = true → doc.column tabSize e.2.span.start = 0 := by
  rw [overshoot, List.sum_eq_zero_iff_forall_eq_nat, List.forall_mem_map]
  simp only [List.mem_filter, and_imp]

/-! ## Runs of the builder -/

/-- What the builder has made of the part `a` of the text `t`: every leaf is as far beyond its
column as the leaves that its walk visits make it, and so is the place that the builder has come
to. -/
structure Located (tabSize : Nat) (t a : Text) (state : LeafChain × Gap) : Prop where
  total_after : (state.1.indentAfter state.2).total =
    columns tabSize (lastLine a) + overshoot (.ofText t) tabSize (state.1.trailAfter state.2)
  leaves : ∀ id leaf, state.1.leaf? id = some leaf → ∃ u v d, t = u ++ v ∧
    leaf.span.start = byteSize u ∧ state.1.indent? id = some d ∧
    d.total = columns tabSize (lastLine u) + overshoot (.ofText t) tabSize (state.1.visited id)

/-- The builder starts with no leaf to find. -/
theorem located_empty (tabSize : Nat) (t : Text) (offset : Nat) :
    Located tabSize t [] (.empty, .empty offset) where
  total_after := rfl
  leaves id leaf h := by
    simp [LeafChain.leaf?, LeafChain.get?, LeafChain.empty, LeafSlots.get?] at h

variable {tabSize : Nat} {t a w : Text} {chain : LeafChain} {gap : Gap}

/-- White space on a line moves the place that the builder has come to by its columns. -/
theorem Located.append_spacing (h : Located tabSize t a (chain, gap))
    (hw : ∀ c ∈ w, Lexeme.isSpacing c = true) :
    Located tabSize t (a ++ w) (chain, gap.append tabSize w) where
  total_after := by
    have hfeed : '\n' ∉ w := fun hmem => absurd (hw _ hmem) (by decide)
    have htotal : (chain.indentAfter gap).total = columns tabSize (lastLine a) +
        overshoot (.ofText t) tabSize (chain.trailAfter gap) := h.total_after
    rw [LeafChain.indentAfter_append hfeed, LeafChain.trailAfter_append chain gap hfeed,
      Indent.total_add, htotal, Gap.total_spacing_of_isSpacing tabSize hw,
      (wholeLines_append_of_notMem a hfeed).2, columns_append]
    omega
  leaves := h.leaves

/-- After a line end the walk from the next leaf visits no other. -/
theorem Located.append_newline (h : Located tabSize t a (chain, gap)) {v : Text}
    (hw : w = v ++ ['\n']) :
    Located tabSize t (a ++ w) (chain, gap.append tabSize w) where
  total_after := by
    have hmem : '\n' ∈ v ++ ['\n'] := List.mem_append_right v List.mem_cons_self
    rw [hw, LeafChain.indentAfter_append_newline, LeafChain.trailAfter_append_of_mem chain gap hmem,
      ← List.append_assoc, (wholeLines_of_endsLine (endsLine_newline (a ++ v))).2]
    rfl
  leaves := h.leaves

/-- The new leaf is put where the builder has come to. What comes after it is on its last line, so
that the columns in front of it are too many if it runs over several lines. -/
theorem Located.push (h : Located tabSize t a (chain, gap)) {leaf : Leaf} {b : Text}
    (ht : t = a ++ w ++ b) (hgap : leaf.gap = gap) (hstart : leaf.span.start = byteSize a)
    (hmultiline : leaf.multiline = decide ('\n' ∈ w))
    (hwidth : leaf.width = lastLineColumns tabSize w) (offset : Nat) :
    Located tabSize t (a ++ w) (chain.push leaf, .empty offset) where
  total_after := by
    have htotal : (chain.indentAfter leaf.gap).total = columns tabSize (lastLine a) +
        overshoot (.ofText t) tabSize (chain.trailAfter leaf.gap) := hgap ▸ h.total_after
    have hcolumn : (Document.ofText t).column tabSize leaf.span.start =
        columns tabSize (lastLine a) := by
      rw [ht, hstart, List.append_assoc]
      exact Document.column_byteSize tabSize a (w ++ b)
    rw [LeafChain.indentAfter_push, Indent.total_add, htotal, LeafChain.trailAfter_push,
      overshoot_cons, hmultiline, hcolumn, hwidth, lastLineColumns]
    by_cases hw : '\n' ∈ w
    · -- The walk goes on over the line feed in the leaf, to the columns in front of it.
      rw [if_pos (decide_eq_true hw), (wholeLines_append_of_mem a hw).2]
      simp only [Indent.ofSpaces, Indent.total]
      omega
    · rw [if_neg (by simpa using hw), (wholeLines_append_of_notMem a hw).2, columns_append,
        (wholeLines_of_notMem hw).2]
      simp only [Indent.ofSpaces, Indent.total]
      omega
  leaves id leaf' hleaf := by
    rw [LeafChain.leaf?_push] at hleaf
    by_cases hid : id = chain.nextId
    · rw [if_pos hid] at hleaf
      obtain rfl := Option.some.inj hleaf
      rw [hid, chain.visited_push_nextId]
      exact ⟨a, w ++ b, _, by rw [ht, List.append_assoc], hstart, chain.indent?_push_nextId leaf,
        hgap ▸ h.total_after⟩
    · rw [if_neg hid] at hleaf
      rw [chain.indent?_push leaf hid, chain.visited_push leaf hid]
      exact h.leaves id leaf' hleaf

/-- One token more, whatever follows it in the text. -/
theorem Located.step {layout : Layout} {state : LeafChain × Gap} {x : Lexeme} {b : Text}
    (h : Located layout.tabSize t a state) (ht : t = a ++ x.text ++ b)
    (hmetrics : layout.metrics = (Document.ofText t).metrics)
    (hx : x.kind.isTrivia = true → Token.IsTriviaText x.text) :
    let token : Token := ⟨x.kind, x.text, ⟨byteSize a, byteSize a + byteSize x.text⟩⟩
    Located layout.tabSize t (a ++ x.text) (layout.step state token) := by
  intro token
  obtain ⟨chain, gap⟩ := state
  by_cases htrivia : x.kind.isTrivia = true
  · rw [layout.step_of_isTrivia htrivia]
    rcases hx htrivia with hspacing | htext | htext
    · exact h.append_spacing hspacing
    · exact h.append_newline (v := []) htext
    · exact h.append_newline (v := ['\r']) htext
  · have hspan : token.span = ⟨byteSize a, byteSize (a ++ token.text)⟩ := by
      rw [byteSize_append]
    have hmetrics : layout.metrics = (Document.ofText (a ++ token.text ++ b)).metrics :=
      hmetrics.trans (by rw [ht])
    rw [layout.step_of_not_isTrivia htrivia]
    exact h.push ht rfl rfl (isMultiline_eq hmetrics hspan) (width_eq hmetrics hspan) _

/-- Along all tokens of a text, the builder keeps in step with the text. -/
theorem Located.run {layout : Layout} (hmetrics : layout.metrics = (Document.ofText t).metrics)
    {xs : List Lexeme}
    (hxs : ∀ x ∈ xs, x.kind.isTrivia = true → Token.IsTriviaText x.text)
    {state : LeafChain × Gap} (ht : t = a ++ xs.flatMap (·.text))
    (h : Located layout.tabSize t a state) :
    Located layout.tabSize t t ((Token.place (byteSize a) xs).foldl layout.step state) := by
  induction xs generalizing a state with
  | nil =>
    rw [List.flatMap_nil, List.append_nil] at ht
    exact ht ▸ h
  | cons x xs ih =>
    rw [List.flatMap_cons, ← List.append_assoc] at ht
    have hstep := h.step ht hmetrics (hxs x List.mem_cons_self)
    have hrest := ih (fun y hy => hxs y (List.mem_cons_of_mem x hy)) ht hstep
    rw [byteSize_append] at hrest
    rw [Token.place, List.foldl_cons]
    exact hrest

/-- In the end, every leaf is as far beyond its column as the walk makes it. -/
theorem located_build {layout : Layout} {tokens : List Token}
    (hmetrics : layout.metrics = (Document.ofText t).metrics) (htiling : Token.Tiling t tokens) :
    Located layout.tabSize t t (layout.build tokens) := by
  obtain ⟨hplace, hjoin⟩ := htiling.eq_place
  have hxs : ∀ x ∈ tokens.map Token.lexeme, x.kind.isTrivia = true →
      Token.IsTriviaText x.text := by
    intro x hx
    obtain ⟨token, htoken, rfl⟩ := List.mem_map.1 hx
    exact htiling.trivia token htoken
  have ht : t = [] ++ (tokens.map Token.lexeme).flatMap (·.text) := by
    rw [List.flatMap_map]
    exact hjoin.symm
  have h := (located_empty layout.tabSize t ((tokens.head?.map (·.span.start)).getD 0)).run
    hmetrics hxs ht
  rw [byteSize_nil, ← hplace] at h
  exact h

/-- Let the tokens be the text, cut into spacing, line ends and any other pieces. In the chain that
is built of them, a leaf is put behind the columns of the text in front of it on its line and the
columns in front of every leaf of several lines that the walk visits. So it is put at its own column
just if each of these leaves begins its line. -/
theorem indent?_build_tiling {t : Text} {tokens : List Token} (htiling : Token.Tiling t tokens)
    {tabSize : Nat} (htab : 0 < tabSize) (readOnly : List Span) {id : LeafId} {node : ChainNode}
    (h : (build ⟨(Document.ofText t).metrics, tabSize, readOnly⟩ tokens).1.get? id = some node) :
    let doc := Document.ofText t
    let chain := (build ⟨doc.metrics, tabSize, readOnly⟩ tokens).1
    ∃ p d, doc.slice? ⟨doc.lineStart node.leaf.span.start, node.leaf.span.start⟩ = some p ∧
      chain.indent? id = some d ∧
      d.total = columns tabSize p + overshoot doc tabSize (chain.visited id) ∧
      (d.total = columns tabSize p ↔ ∀ e ∈ chain.visited id, e.2.multiline = true →
        doc.lineStart e.2.span.start = e.2.span.start) := by
  intro doc chain
  let layout : Layout := ⟨doc.metrics, tabSize, readOnly⟩
  have hlocated : Located tabSize t t (layout.build tokens) :=
    located_build (show layout.metrics = doc.metrics from rfl) htiling
  obtain ⟨u, v, d, ht, hstart, hindent, htotal⟩ :=
    hlocated.leaves id node.leaf (LeafChain.leaf?_of_get? h)
  have hslice : doc.slice? ⟨doc.lineStart node.leaf.span.start, node.leaf.span.start⟩ =
      some (lastLine u) := by
    have h := Document.slice?_lineStart u v
    rwa [← ht, ← hstart] at h
  -- The leaves on the walk are leaves of the chain, so the text is cut where they start.
  have hbegins : ∀ e ∈ chain.visited id, doc.column tabSize e.2.span.start = 0 ↔
      doc.lineStart e.2.span.start = e.2.span.start := by
    intro e he
    obtain ⟨u, v, -, ht, hstart, -⟩ :=
      hlocated.leaves e.1 e.2 (LeafChain.leaf?_of_mem_visited he)
    have h := Document.column_eq_zero_iff htab u v
    rwa [← ht, ← hstart] at h
  refine ⟨lastLine u, d, hslice, hindent, htotal, ?_⟩
  calc d.total = columns tabSize (lastLine u)
    _ ↔ overshoot doc tabSize (chain.visited id) = 0 := by
      rw [htotal]
      exact Nat.add_eq_left
    _ ↔ ∀ e ∈ chain.visited id, e.2.multiline = true →
        doc.column tabSize e.2.span.start = 0 := overshoot_eq_zero_iff
    _ ↔ ∀ e ∈ chain.visited id, e.2.multiline = true →
        doc.lineStart e.2.span.start = e.2.span.start :=
      forall₂_congr fun e he => imp_congr_right fun _ => hbegins e he

/-- The second leaf runs over two lines and begins the first of them, so the third one is put where
it is on the other. -/
theorem indent?_build_tiling_line_start :
    let t := "x\ny\n\tz w".toList
    let tokens : List Token := [⟨.word, "x".toList, ⟨0, 1⟩⟩, ⟨.newline, "\n".toList, ⟨1, 2⟩⟩,
      ⟨.word, "y\n\tz".toList, ⟨2, 6⟩⟩, ⟨.whitespace, " ".toList, ⟨6, 7⟩⟩,
      ⟨.word, "w".toList, ⟨7, 8⟩⟩]
    let doc := Document.ofText t
    let chain := (build ⟨doc.metrics, 4, []⟩ tokens).1
    Token.Tiling t tokens ∧ 0 < 4 ∧ ∃ node, chain.get? 2 = some node ∧
      ∃ p d, doc.slice? ⟨4, 7⟩ = some p ∧ chain.indent? 2 = some d ∧ d.total = columns 4 p := by
  intro t tokens doc chain
  have htiling : Token.Tiling t tokens := by decide +kernel
  obtain ⟨node, hnode, hstart⟩ : ∃ node, chain.get? 2 = some node ∧ node.leaf.span.start = 7 :=
    Option.map_eq_some_iff.1 (show (chain.get? 2).map (·.leaf.span.start) = some 7 by
      decide +kernel)
  obtain ⟨p, d, hslice, hindent, -, htotal⟩ :=
    indent?_build_tiling htiling (by decide : 0 < 4) [] hnode
  have hvisited : ∀ e ∈ chain.visited 2, e.2.multiline = true →
      doc.lineStart e.2.span.start = e.2.span.start := by
    decide +kernel
  have hline : doc.lineStart 7 = 4 := by decide +kernel
  rw [hstart, hline] at hslice
  exact ⟨htiling, by decide, node, hnode, p, d, hslice, hindent, htotal.2 hvisited⟩

/-- The second leaf runs over two lines and begins behind two columns, which the third one, on the
other line, is put too far. -/
theorem indent?_build_tiling_inside_line :
    let t := "x y\nz w".toList
    let tokens : List Token := [⟨.word, "x".toList, ⟨0, 1⟩⟩, ⟨.whitespace, " ".toList, ⟨1, 2⟩⟩,
      ⟨.word, "y\nz".toList, ⟨2, 5⟩⟩, ⟨.whitespace, " ".toList, ⟨5, 6⟩⟩,
      ⟨.word, "w".toList, ⟨6, 7⟩⟩]
    let doc := Document.ofText t
    let chain := (build ⟨doc.metrics, 4, []⟩ tokens).1
    Token.Tiling t tokens ∧ (chain.get? 2).map (·.leaf.span.start) = some 6 ∧
      (doc.slice? ⟨doc.lineStart 6, 6⟩).map (columns 4) = some 2 ∧
      (chain.indent? 2).map (·.total) = some 4 := by
  decide +kernel

end Layout

end NotebookLayout
