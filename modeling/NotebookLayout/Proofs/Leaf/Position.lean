import NotebookLayout.Proofs.Leaf.Build
import NotebookLayout.Proofs.Leaf.Trail
import NotebookLayout.Proofs.Token.Lexeme

/-!
# Where the leaves of a text begin

The walk through a chain, which reads nothing but gaps and widths, finds the columns that the text
itself has in front of a leaf:

- `Indent.IsAt`: what an indent has to be at a place in a text;
- `Measured.step` and `Measured.run`: the builder keeps the indents of all leaves, and of the place
  it has come to, in step with the text;
- `indent?_build`: in the chain of a text, the indent of every leaf is the one at the leaf's place.
-/

namespace NotebookLayout

/-! ## Tabs in trivia -/

/-- The offsets of the tabs that lie in trivia. -/
def Token.triviaTabs (tokens : List Token) : List Nat :=
  (tokens.filter (·.kind.isTrivia)).flatMap fun token =>
    Text.offsetsOf '\t' token.span.start token.text

/-- The tabs of a token count if it is trivia. -/
theorem Token.triviaTabs_cons (token : Token) (tokens : List Token) :
    triviaTabs (token :: tokens) =
      (if token.kind.isTrivia then Text.offsetsOf '\t' token.span.start token.text else []) ++
        triviaTabs tokens := by
  by_cases h : token.kind.isTrivia = true
  · simp [triviaTabs, h]
  · simp [triviaTabs, h]

/-! ## Indents at places of a text -/

/-- On a line, white space has the columns of its text. -/
theorem Gap.total_spacing_of_isSpacing (tabSize : Nat) {t : Text}
    (h : ∀ c ∈ t, Lexeme.isSpacing c = true) :
    (Gap.spacing tabSize t).total = Text.columns tabSize t := by
  refine Gap.total_spacing tabSize fun c hc => ?_
  have hc := h c hc
  simp only [Lexeme.isSpacing, Bool.or_eq_true, decide_eq_true_iff] at hc
  rcases hc with (rfl | rfl) | rfl <;> decide

namespace Indent

open Text

/-- The indent is that of the place after `a`, where `tabs` are the offsets of tabs in trivia: its
columns are those of the last line, and of these the tabs make up their part. -/
structure IsAt (tabSize : Nat) (tabs : List Nat) (a : Text) (d : Indent) : Prop where
  total_eq : d.total = columns tabSize (lastLine a)
  indentSpaces_eq : d.indentSpaces =
    tabSize * tabs.countP fun k => byteSize (wholeLines a) ≤ k && k < byteSize a

/-- At the start of a line there are no columns yet. -/
theorem isAt_of_endsLine {a : Text} (h : EndsLine a) (tabSize : Nat) (tabs : List Nat) :
    IsAt tabSize tabs a 0 := by
  obtain ⟨hwhole, hlast⟩ := wholeLines_of_endsLine h
  constructor
  case total_eq =>
    rw [hlast]
    rfl
  case indentSpaces_eq =>
    -- No offset is both before the place and on the line that begins there.
    have hnone : tabs.countP (fun k => byteSize (wholeLines a) ≤ k && k < byteSize a) = 0 := by
      rw [hwhole, List.countP_eq_zero]
      intro k _
      simp
    rw [hnone]
    rfl

variable {tabSize : Nat} {tabs : List Nat} {a v : Text} {d : Indent}

/-- Tabs further on do not count. -/
theorem IsAt.append_tabs (h : d.IsAt tabSize tabs a) {more : List Nat}
    (hmore : ∀ k ∈ more, byteSize a ≤ k) : d.IsAt tabSize (tabs ++ more) a where
  total_eq := h.total_eq
  indentSpaces_eq := by
    have hnone : more.countP (fun k => byteSize (wholeLines a) ≤ k && k < byteSize a) = 0 := by
      refine List.countP_eq_zero.2 fun k hk => ?_
      have := hmore k hk
      simp only [Bool.and_eq_true, decide_eq_true_iff]
      omega
    rw [List.countP_append, hnone, Nat.add_zero]
    exact h.indentSpaces_eq

/-- Text without trivia adds no tabs. -/
theorem countP_tabs_append (htabs : ∀ k ∈ tabs, k < byteSize a) (hv : '\n' ∉ v) :
    tabs.countP (fun k => byteSize (wholeLines (a ++ v)) ≤ k && k < byteSize (a ++ v)) =
      tabs.countP fun k => byteSize (wholeLines a) ≤ k && k < byteSize a := by
  rw [(wholeLines_append_of_notMem a hv).1, byteSize_append]
  refine List.countP_congr fun k hk => ?_
  have := htabs k hk
  simp only [Bool.and_eq_true, decide_eq_true_iff]
  omega

/-- A text without line feeds that is no trivia moves the place by its columns. -/
theorem IsAt.append_text (h : d.IsAt tabSize tabs a) (htabs : ∀ k ∈ tabs, k < byteSize a)
    (hv : '\n' ∉ v) : (d + ofSpaces (columns tabSize v)).IsAt tabSize tabs (a ++ v) where
  total_eq := by
    rw [total_add, h.total_eq, (wholeLines_append_of_notMem a hv).2, columns_append]
    simp [ofSpaces, total]
  indentSpaces_eq := by
    rw [countP_tabs_append htabs hv, ← h.indentSpaces_eq]
    rfl

/-- White space moves it by the same, but adds its tabs to those in trivia. -/
theorem IsAt.append_spacing (h : d.IsAt tabSize tabs a) (htabs : ∀ k ∈ tabs, k < byteSize a)
    (hv : ∀ c ∈ v, Lexeme.isSpacing c = true) :
    (d + Gap.spacing tabSize v).IsAt tabSize (tabs ++ offsetsOf '\t' (byteSize a) v) (a ++ v) := by
  have hfeed : '\n' ∉ v := fun hmem => absurd (hv _ hmem) (by decide)
  constructor
  case total_eq =>
    rw [total_add, h.total_eq, (wholeLines_append_of_notMem a hfeed).2, columns_append,
      Gap.total_spacing_of_isSpacing tabSize hv]
  case indentSpaces_eq =>
    -- Every tab of `v` is on the last line and before the new place.
    have hall : (offsetsOf '\t' (byteSize a) v).countP
        (fun k => byteSize (wholeLines (a ++ v)) ≤ k && k < byteSize (a ++ v)) =
          v.count '\t' := by
      rw [← length_offsetsOf '\t' (byteSize a) v, List.countP_eq_length]
      intro k hk
      have hk := bounds_of_mem_offsetsOf hk
      have hline := byteSize_wholeLines_le a
      rw [(wholeLines_append_of_notMem a hfeed).1, byteSize_append]
      simp only [Bool.and_eq_true, decide_eq_true_iff]
      omega
    rw [List.countP_append, countP_tabs_append htabs hfeed, hall, Nat.mul_add, ← h.indentSpaces_eq]
    rfl

end Indent

/-! ## Runs of the builder -/

namespace LeafChain

open Text

variable {chain : LeafChain} {gap : Gap} {tabSize : Nat} {w : Text}

/-- White space on the line moves the next leaf by its columns. -/
theorem indentAfter_append (hw : '\n' ∉ w) :
    chain.indentAfter (gap.append tabSize w) =
      chain.indentAfter gap + Gap.spacing tabSize w := by
  rw [indentAfter, Gap.hasLineFeed_append_of_notMem tabSize gap hw, Gap.indent_append, if_neg hw,
    (wholeLines_of_notMem hw).2, ← Indent.add_assoc]
  rfl

/-- Behind a line feed, the next leaf begins its line. -/
theorem indentAfter_append_newline :
    chain.indentAfter (gap.append tabSize (w ++ ['\n'])) = 0 := by
  have hmem : '\n' ∈ w ++ ['\n'] := List.mem_append_right w List.mem_cons_self
  rw [indentAfter, if_pos ((Gap.hasLineFeed_append tabSize gap _).2 (Or.inr hmem)),
    Gap.indent_append, if_pos hmem, (wholeLines_of_endsLine (endsLine_newline w)).2]
  rfl

end LeafChain

namespace Layout

open Text

/-- What the builder has made of the text `a`: every leaf is where the text has it, and so is the
place that the builder has come to. -/
structure Measured (tabSize : Nat) (tabs : List Nat) (a : Text) (state : LeafChain × Gap) :
    Prop where
  tabs_lt : ∀ k ∈ tabs, k < byteSize a
  -- A leaf that came next would be put at the end of the text.
  isAt : (state.1.indentAfter state.2).IsAt tabSize tabs a
  leaves : ∀ id leaf, state.1.leaf? id = some leaf → ∃ u v d, a = u ++ v ∧
    leaf.span.start = byteSize u ∧ state.1.indent? id = some d ∧ d.IsAt tabSize tabs u

/-- The builder starts with nothing read. -/
theorem measured_empty (tabSize : Nat) : Measured tabSize [] [] (.empty, .empty 0) where
  tabs_lt := by simp
  isAt := Indent.isAt_of_endsLine endsLine_nil tabSize []
  leaves id leaf h := by
    simp [LeafChain.leaf?, LeafChain.get?, LeafChain.empty, LeafSlots.get?] at h

variable {tabSize : Nat} {tabs more : List Nat} {a : Text} {chain : LeafChain} {gap : Gap}

/-- What follows in the text leaves the leaves that there are where they are. -/
theorem Measured.leaves_append (h : Measured tabSize tabs a (chain, gap))
    (hmore : ∀ k ∈ more, byteSize a ≤ k) (w : Text) {id : LeafId} {leaf : Leaf}
    (hleaf : chain.leaf? id = some leaf) :
    ∃ u v d, a ++ w = u ++ v ∧ leaf.span.start = byteSize u ∧
      chain.indent? id = some d ∧ d.IsAt tabSize (tabs ++ more) u := by
  obtain ⟨u, v, d, rfl, hstart, hindent, hisAt⟩ := h.leaves id leaf hleaf
  -- The new tabs are behind the place that the builder has come to, and so behind every leaf.
  refine ⟨u, v ++ w, d, List.append_assoc u v w, hstart, hindent, hisAt.append_tabs fun k hk => ?_⟩
  have := hmore k hk
  rw [byteSize_append] at this
  omega

/-- All tabs counted lie in what has been read. -/
theorem tabs_lt_append (h : ∀ k ∈ tabs, k < byteSize a) (w : Text)
    (hmore : ∀ k ∈ more, k < byteSize (a ++ w)) : ∀ k ∈ tabs ++ more, k < byteSize (a ++ w) := by
  intro k hk
  rcases List.mem_append.1 hk with hk | hk
  · have := h k hk
    rw [byteSize_append]
    omega
  · exact hmore k hk

/-- A lexeme that is trivia moves the place that the builder has come to. -/
theorem Measured.append_trivia (h : Measured tabSize tabs a (chain, gap)) {x : Lexeme}
    (hx : x.Lawful) (htrivia : x.kind.isTrivia = true) :
    Measured tabSize (tabs ++ offsetsOf '\t' (byteSize a) x.text) (a ++ x.text)
      (chain, gap.append tabSize x.text) where
  tabs_lt := tabs_lt_append h.tabs_lt x.text fun k hk => by
    rw [byteSize_append]
    exact (bounds_of_mem_offsetsOf hk).2
  isAt := by
    rcases hx.trivia_cases htrivia with ⟨-, hspacing, hfeed⟩ | ⟨-, w, hw⟩
    · rw [LeafChain.indentAfter_append hfeed]
      exact h.isAt.append_spacing h.tabs_lt hspacing
    · -- Both line ends end with the feed, which does away with all that was on the line.
      rw [hw, LeafChain.indentAfter_append_newline, ← List.append_assoc]
      exact Indent.isAt_of_endsLine (endsLine_newline _) tabSize _
  leaves id leaf hleaf :=
    h.leaves_append (fun k hk => (bounds_of_mem_offsetsOf hk).1) x.text hleaf

/-- A leaf whose text is on one line is put where the builder has come to. -/
theorem Measured.push (h : Measured tabSize tabs a (chain, gap)) {leaf : Leaf} {w : Text}
    (hgap : leaf.gap = gap) (hstart : leaf.span.start = byteSize a)
    (hwidth : leaf.width = columns tabSize w) (hw : '\n' ∉ w) (offset : Nat) :
    Measured tabSize tabs (a ++ w) (chain.push leaf, .empty offset) where
  tabs_lt k hk := by
    have := h.tabs_lt k hk
    rw [byteSize_append]
    omega
  isAt := by
    rw [LeafChain.indentAfter_push, hgap, hwidth]
    exact h.isAt.append_text h.tabs_lt hw
  leaves id leaf' hleaf := by
    rw [LeafChain.leaf?_push] at hleaf
    by_cases hid : id = chain.nextId
    · -- The new leaf begins where the builder had come to.
      rw [if_pos hid] at hleaf
      obtain rfl := Option.some.inj hleaf
      rw [hid]
      exact ⟨a, w, _, rfl, hstart, chain.indent?_push_nextId leaf, hgap ▸ h.isAt⟩
    · rw [if_neg hid] at hleaf
      obtain ⟨u, v, d, hsplit, hat, hindent, hisAt⟩ := h.leaves id leaf' hleaf
      refine ⟨u, v ++ w, d, by rw [hsplit, List.append_assoc], hat, ?_, hisAt⟩
      rw [chain.indent?_push leaf hid, hindent]

/-- One lexeme more, whatever follows it in the text. -/
theorem Measured.step {layout : Layout} {state : LeafChain × Gap} {x : Lexeme} {b : Text}
    (h : Measured layout.tabSize tabs a state) (hx : x.Lawful)
    (hmetrics : layout.metrics = (Document.ofText (a ++ x.text ++ b)).metrics) :
    let token : Token := ⟨x.kind, x.text, ⟨byteSize a, byteSize a + byteSize x.text⟩⟩
    let more := if x.kind.isTrivia then offsetsOf '\t' (byteSize a) x.text else []
    Measured layout.tabSize (tabs ++ more) (a ++ x.text) (layout.step state token) := by
  intro token more
  obtain ⟨chain, gap⟩ := state
  by_cases htrivia : x.kind.isTrivia = true
  · have hmore : more = offsetsOf '\t' (byteSize a) x.text := if_pos htrivia
    rw [layout.step_of_isTrivia htrivia, hmore]
    exact h.append_trivia hx htrivia
  · have hfeed : '\n' ∉ x.text := hx.newline_notMem (Bool.eq_false_iff.2 htrivia)
    have hspan : token.span = ⟨byteSize a, byteSize (a ++ token.text)⟩ := by
      rw [byteSize_append]
    have hwidth : (layout.leaf token gap).width = columns layout.tabSize x.text :=
      width_of_notMem hmetrics hspan hfeed
    have hmore : more = [] := if_neg htrivia
    rw [layout.step_of_not_isTrivia htrivia, hmore, List.append_nil]
    exact h.push rfl rfl hwidth hfeed token.span.stop

/-- Along all lexemes of a text, the builder keeps in step with the text. -/
theorem Measured.run {layout : Layout} {t : Text}
    (hmetrics : layout.metrics = (Document.ofText t).metrics) {xs : List Lexeme}
    (hxs : ∀ x ∈ xs, x.Lawful) {tabs : List Nat} {a : Text} {state : LeafChain × Gap}
    (ht : t = a ++ xs.flatMap (·.text)) (h : Measured layout.tabSize tabs a state) :
    Measured layout.tabSize (tabs ++ Token.triviaTabs (Token.place (byteSize a) xs)) t
      ((Token.place (byteSize a) xs).foldl layout.step state) := by
  induction xs generalizing tabs a state with
  | nil =>
    rw [List.flatMap_nil, List.append_nil] at ht
    rw [ht]
    exact (List.append_nil tabs).symm ▸ h
  | cons x xs ih =>
    -- The text read so far grows by the text of `x`, and the place of the next lexeme with it.
    rw [List.flatMap_cons, ← List.append_assoc] at ht
    have hstep := h.step (hxs x List.mem_cons_self) (hmetrics.trans (by rw [ht]))
    have hrest := ih (fun y hy => hxs y (List.mem_cons_of_mem x hy)) ht hstep
    rw [byteSize_append, List.append_assoc] at hrest
    rw [Token.place, List.foldl_cons, Token.triviaTabs_cons]
    exact hrest

/-- In the end, all leaves are where the text has them. -/
theorem measured_build {layout : Layout} {t : Text}
    (hmetrics : layout.metrics = (Document.ofText t).metrics) :
    Measured layout.tabSize (Token.triviaTabs (Token.ofText t)) t
      (layout.build (Token.ofText t)) := by
  have h := Measured.run hmetrics
    (fun x hx => Lexeme.lawful_of_mem_ofText hx) (Lexeme.flatMap_text_ofText t).symm
    (measured_empty layout.tabSize)
  rw [build_ofText]
  exact h

/-- In the chain that is built of a text, a leaf's indent is told by the text in front of it on
its line: it has as many columns, and the tabs that lie in trivia make up their part of these. -/
theorem indent?_build (t : Text) (tabSize : Nat) (readOnly : List Span) {id : LeafId}
    {node : ChainNode}
    (h : (build ⟨(Document.ofText t).metrics, tabSize, readOnly⟩ (Token.ofText t)).1.get? id =
      some node) :
    let doc := Document.ofText t
    let chain := (build ⟨doc.metrics, tabSize, readOnly⟩ (Token.ofText t)).1
    let lineStart := doc.metrics.startOf (doc.metrics.lineOf node.leaf.span.start)
    let tabs := (Token.triviaTabs (Token.ofText t)).countP fun k =>
      lineStart ≤ k && k < node.leaf.span.start
    ∃ p d, doc.slice? ⟨lineStart, node.leaf.span.start⟩ = some p ∧ chain.indent? id = some d ∧
      d.total = columns tabSize p ∧ d.indentSpaces = tabSize * tabs ∧
      d.spaces = columns tabSize p - tabSize * tabs := by
  intro doc chain lineStart tabs
  -- The text is cut where the leaf starts.
  obtain ⟨u, v, d, ht, hstart, hindent, hisAt⟩ :=
    (measured_build rfl).leaves id node.leaf (LeafChain.leaf?_of_get? h)
  have hline : lineStart = byteSize (wholeLines u) := by
    have h := LineIndex.startOf_lineOf_byteSize u v
    rwa [← ht, ← hstart] at h
  have hslice : doc.slice? ⟨lineStart, node.leaf.span.start⟩ = some (lastLine u) := by
    have h := LineIndex.slice?_lineStart u v
    rwa [← ht, ← hstart] at h
  have htabs : d.indentSpaces = tabSize * tabs := by
    rw [hisAt.indentSpaces_eq, ← hline, ← hstart]
  refine ⟨lastLine u, d, hslice, hindent, hisAt.total_eq, htabs, ?_⟩
  rw [← hisAt.total_eq, ← htabs, Indent.total, Nat.add_sub_cancel_left]

end Layout

end NotebookLayout
