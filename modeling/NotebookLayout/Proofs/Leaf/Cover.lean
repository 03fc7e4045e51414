import NotebookLayout.Proofs.Leaf.Build
import NotebookLayout.Proofs.Leaf.Walk
import NotebookLayout.Proofs.Token.Tokens

/-!
# Leaves and gaps cover the text

The builder loses nothing of a text: its gaps and leaves, read in turn, are the text.

- `segment`: what the builder makes of tokens, told by recursion on the tokens;
- `exists_token_of_mem_leaves`: every leaf of a text is that of a token with a byte or more;
- `Covers`: gaps and leaves that are a text, piece by piece;
- `covers_segment` and `covers_build`: the lexemes of a text give such pieces;
- `build_covers`: what this says of the chain that is built of a text.
-/

namespace NotebookLayout

open Text

/-! ## Gaps and leaves in a text -/

/-- The gap goes from `start` to `stop`, and measures the text there. -/
def Gap.Measures (tabSize : Nat) (t : Text) (start stop : Nat) (gap : Gap) : Prop :=
  gap.span = ⟨start, stop⟩ ∧
    ∃ w, slice? start stop t = some w ∧ gap = .measure tabSize start w

/-- A text between two others is measured at its place. -/
theorem Gap.measures_measure (tabSize : Nat) (a w b : Text) :
    Gap.Measures tabSize (a ++ w ++ b) (byteSize a) (byteSize (a ++ w))
      (.measure tabSize (byteSize a) w) := by
  rw [byteSize_append]
  exact ⟨Gap.span_measure tabSize (byteSize a) w, w, slice?_append a w b, rfl⟩

/-- The text of a leaf with the gap in front of it. -/
def Leaf.piece? (doc : Document) (leaf : Leaf) : Option Text := do
  return (← doc.slice? leaf.gap.span) ++ (← doc.slice? leaf.span)

namespace Layout

/-! ## The builder, token by token -/

/-- The leaves of some tokens behind a gap, and the gap after the last leaf. -/
def segment (layout : Layout) (gap : Gap) : List Token → List Leaf × Gap
  | [] => ([], gap)
  | token :: rest =>
    if token.kind.isTrivia then layout.segment (gap.append layout.tabSize token.text) rest
    else
      let after := layout.segment (.empty token.span.stop) rest
      (layout.leaf token gap :: after.1, after.2)

/-- The builder puts the leaves behind those that the chain has, and keeps it in one piece. -/
theorem foldl_step (layout : Layout) (tokens : List Token) {chain : LeafChain} (gap : Gap)
    (h : chain.Unbroken) :
    let built := tokens.foldl layout.step (chain, gap)
    built.1.Unbroken ∧
      built.1.leaves.map (·.2) = chain.leaves.map (·.2) ++ (layout.segment gap tokens).1 ∧
      built.2 = (layout.segment gap tokens).2 := by
  induction tokens generalizing chain gap with
  | nil => exact ⟨h, (List.append_nil _).symm, rfl⟩
  | cons token rest ih =>
    rw [List.foldl_cons, segment]
    by_cases htrivia : token.kind.isTrivia = true
    · rw [layout.step_of_isTrivia htrivia, if_pos htrivia]
      exact ih _ h
    · rw [layout.step_of_not_isTrivia htrivia, if_neg htrivia]
      obtain ⟨hunbroken, hleaves, hgap⟩ := ih (.empty token.span.stop) (h.push _)
      refine ⟨hunbroken, ?_, hgap⟩
      rw [hleaves, LeafChain.leaves_push, List.map_append, List.append_assoc]
      rfl

/-- What the builder makes of the tokens of a text. -/
theorem segment_build (layout : Layout) (t : Text) :
    let built := layout.build (Token.ofText t)
    let pieces := layout.segment (.empty 0) (Token.ofText t)
    built.1.leaves.map (·.2) = pieces.1 ∧ built.2 = pieces.2 := by
  obtain ⟨-, hleaves, htrailing⟩ :=
    layout.foldl_step (Token.ofText t) (.empty 0) LeafChain.unbroken_empty
  rw [build_ofText]
  exact ⟨hleaves, htrailing⟩

/-- Every leaf is that of a token. -/
theorem exists_token_of_mem_segment {layout : Layout} {gap : Gap} {tokens : List Token}
    {leaf : Leaf} (h : leaf ∈ (layout.segment gap tokens).1) :
    ∃ token ∈ tokens, ∃ before, leaf = layout.leaf token before := by
  fun_induction segment layout gap tokens with
  | case1 gap => simp at h
  | case2 gap token rest htrivia ih =>
    obtain ⟨other, hmem, hleaf⟩ := ih h
    exact ⟨other, List.mem_cons_of_mem token hmem, hleaf⟩
  | case3 gap token rest htrivia after ih =>
    rcases List.mem_cons.1 h with rfl | h
    · exact ⟨token, List.mem_cons_self, gap, rfl⟩
    · obtain ⟨other, hmem, hleaf⟩ := ih h
      exact ⟨other, List.mem_cons_of_mem token hmem, hleaf⟩

/-- Every leaf of a text is that of a token with a byte or more. -/
theorem exists_token_of_mem_leaves {layout : Layout} {t : Text} {e : LeafId × Leaf}
    (h : e ∈ (layout.build (Token.ofText t)).1.leaves) :
    ∃ token before, e.2 = layout.leaf token before ∧ token.span.start < token.span.stop := by
  have hmem : e.2 ∈ (layout.segment (.empty 0) (Token.ofText t)).1 := by
    rw [← (layout.segment_build t).1]
    exact List.mem_map_of_mem h
  obtain ⟨token, htoken, before, hleaf⟩ := exists_token_of_mem_segment hmem
  exact ⟨token, before, hleaf, Token.start_lt_stop_of_mem_ofText htoken⟩

/-- There is a leaf for each token that is no trivia, of its kind and at its place. -/
theorem map_segment (layout : Layout) (gap : Gap) (tokens : List Token) :
    (layout.segment gap tokens).1.map (fun leaf => (leaf.kind, leaf.span)) =
      (tokens.filter (!·.kind.isTrivia)).map fun token => (token.kind, token.span) := by
  fun_induction segment layout gap tokens with
  | case1 gap => rfl
  | case2 gap token rest htrivia ih => simp [htrivia, ih]
  | case3 gap token rest htrivia after ih =>
    rw [List.filter_cons_of_pos (by simpa using htrivia), List.map_cons, List.map_cons, ih]
    rfl

/-! ## Pieces of a text -/

/-- Behind the text `a`, gaps and leaves in turn are the text `b`, up to the gap `trailing` at its
end. -/
def Covers (tabSize : Nat) (trailing : Gap) (a : Text) : List Leaf → Text → Prop
  | [], b => trailing = .measure tabSize (byteSize a) b
  | leaf :: rest, b => ∃ w v b', b = w ++ (v ++ b') ∧
      leaf.gap = .measure tabSize (byteSize a) w ∧
      leaf.span = ⟨byteSize (a ++ w), byteSize (a ++ w ++ v)⟩ ∧
      Covers tabSize trailing (a ++ w ++ v) rest b'

/-- The lexemes of a text give leaves that cover it, with the white space `w` read before. -/
theorem covers_segment (layout : Layout) (xs : List Lexeme) (a w : Text) :
    let pieces := layout.segment (.measure layout.tabSize (byteSize a) w)
      (Token.place (byteSize (a ++ w)) xs)
    Covers layout.tabSize pieces.2 a pieces.1 (w ++ xs.flatMap (·.text)) := by
  induction xs generalizing a w with
  | nil =>
    rw [List.flatMap_nil, List.append_nil]
    rfl
  | cons x xs ih =>
    rw [Token.place, segment, List.flatMap_cons]
    dsimp only
    split
    next =>
      -- White space only makes the gap longer.
      have ih := ih a (w ++ x.text)
      rw [← List.append_assoc, byteSize_append] at ih
      rw [Gap.append_measure, ← List.append_assoc]
      exact ih
    next =>
      have ih := ih (a ++ w ++ x.text) []
      rw [List.append_nil, byteSize_append (a ++ w)] at ih
      exact ⟨w, x.text, _, rfl, rfl, by rw [byteSize_append (a ++ w)]; rfl, ih⟩

/-- Leaves and gaps that the builder makes of a text cover it. -/
theorem covers_build (layout : Layout) (t : Text) :
    let built := layout.build (Token.ofText t)
    Covers layout.tabSize built.2 [] (built.1.leaves.map (·.2)) t := by
  intro built
  obtain ⟨hleaves, htrailing⟩ := layout.segment_build t
  have h := covers_segment layout (Lexeme.ofText t) [] []
  rw [Lexeme.flatMap_text_ofText] at h
  rw [hleaves, htrailing]
  exact h

/-! ## What the pieces are -/

/-- Where the last one of some leaves ends, or `offset` if there is none. -/
def endOf (offset : Nat) (leaves : List Leaf) : Nat :=
  (leaves.getLast?.map (·.span.stop)).getD offset

/-- More leaves end where the last of them does. -/
theorem endOf_cons (offset : Nat) (leaf : Leaf) (leaves : List Leaf) :
    endOf offset (leaf :: leaves) = endOf leaf.span.stop leaves := by
  rw [endOf, endOf, List.getLast?_cons]
  cases leaves.getLast? <;> rfl

variable {tabSize : Nat} {trailing : Gap} {a b : Text} {leaves : List Leaf}

/-- Each gap is what lies between the leaf in front of it and its own leaf. -/
theorem Covers.measures (h : Covers tabSize trailing a leaves b) {pre post : List Leaf}
    {leaf : Leaf} (hleaves : leaves = pre ++ leaf :: post) :
    Gap.Measures tabSize (a ++ b) (endOf (byteSize a) pre) leaf.span.start leaf.gap := by
  induction leaves generalizing a b pre with
  | nil => simp at hleaves
  | cons first rest ih =>
    obtain ⟨w, v, b', rfl, hgap, hspan, hrest⟩ := h
    cases pre with
    | nil =>
      obtain ⟨rfl, -⟩ := List.cons.inj hleaves
      rw [hgap, hspan, ← List.append_assoc]
      exact Gap.measures_measure tabSize a w (v ++ b')
    | cons _ pre =>
      obtain ⟨rfl, htail⟩ := List.cons.inj hleaves
      have ih := ih hrest htail
      rw [endOf_cons, hspan]
      simpa using ih

/-- The gap after the last leaf is what lies behind it. -/
theorem Covers.measures_trailing (h : Covers tabSize trailing a leaves b) :
    Gap.Measures tabSize (a ++ b) (endOf (byteSize a) leaves) (byteSize (a ++ b)) trailing := by
  induction leaves generalizing a b with
  | nil =>
    obtain rfl : trailing = _ := h
    have hmeasure := Gap.measures_measure tabSize a b []
    rwa [List.append_nil] at hmeasure
  | cons leaf rest ih =>
    obtain ⟨w, v, b', rfl, -, hspan, hrest⟩ := h
    have ih := ih hrest
    rw [endOf_cons, hspan]
    simpa using ih

/-- Every gap and every leaf can be sliced, and the slices joined are the text. -/
theorem Covers.slices (h : Covers tabSize trailing a leaves b) :
    let doc := Document.ofText (a ++ b)
    ∃ pieces rest, leaves.mapM (Leaf.piece? doc) = some pieces ∧
      doc.slice? trailing.span = some rest ∧ pieces.flatten ++ rest = b := by
  induction leaves generalizing a b with
  | nil =>
    obtain rfl : trailing = _ := h
    refine ⟨[], b, rfl, ?_, rfl⟩
    have hslice := slice?_append a b []
    rw [List.append_nil] at hslice
    rw [Document.slice?, Gap.span_measure]
    exact hslice
  | cons leaf rest ih =>
    -- The gap has the text `w`, the leaf has `v`, and the rest covers what comes after these.
    obtain ⟨w, v, b', rfl, hgap, hspan, hrest⟩ := h
    obtain ⟨pieces, last, hpieces, hlast, hjoin⟩ := ih hrest
    rw [show a ++ (w ++ (v ++ b')) = a ++ w ++ v ++ b' by simp]
    have hw : (Document.ofText (a ++ w ++ v ++ b')).slice? leaf.gap.span = some w := by
      have hslice := slice?_append a w (v ++ b')
      rw [← List.append_assoc] at hslice
      rw [hgap, Document.slice?, Gap.span_measure]
      exact hslice
    have hv : (Document.ofText (a ++ w ++ v ++ b')).slice? leaf.span = some v := by
      rw [hspan, Document.slice?, byteSize_append (a ++ w)]
      exact slice?_append (a ++ w) v b'
    refine ⟨(w ++ v) :: pieces, last, ?_, hlast, by simp [hjoin]⟩
    rw [List.mapM_cons, Leaf.piece?, hw, hv, hpieces]
    rfl

/-- The chain that is built of a text has one leaf for each token that is no trivia, of its kind and
at its place. Each gap goes from where the leaf in front ends, or the start of the text, to where
its own leaf starts, and measures the text there; so does the gap after the last leaf, up to the end
of the text. So gaps and leaves in turn are the text. Following the links from either end visits all
leaves. -/
theorem build_covers (layout : Layout) (t : Text) :
    let doc := Document.ofText t
    let tokens := Token.ofText t
    let chain := (layout.build tokens).1
    let trailing := (layout.build tokens).2
    let leaves := chain.leaves.map (·.2)
    leaves.map (fun leaf => (leaf.kind, leaf.span)) =
        (tokens.filter (!·.kind.isTrivia)).map (fun token => (token.kind, token.span)) ∧
      (∀ pre leaf post, leaves = pre ++ leaf :: post →
        Gap.Measures layout.tabSize t (endOf 0 pre) leaf.span.start leaf.gap) ∧
      Gap.Measures layout.tabSize t (endOf 0 leaves) (byteSize t) trailing ∧
      (∃ pieces rest, leaves.mapM (Leaf.piece? doc) = some pieces ∧
        doc.slice? trailing.span = some rest ∧ pieces.flatten ++ rest = t) ∧
      LeafChain.Walk chain.next? chain.first (chain.leaves.map (·.1)) ∧
      LeafChain.Walk chain.previous? chain.last (chain.leaves.map (·.1)).reverse := by
  intro doc tokens chain trailing leaves
  -- One run of the builder shows what the leaves are and that no link of theirs is cut.
  obtain ⟨hunbroken, hleaves, -⟩ := foldl_step layout tokens (.empty 0) LeafChain.unbroken_empty
  rw [← build_ofText] at hunbroken hleaves
  have hcovers : Covers layout.tabSize trailing [] leaves t := layout.covers_build t
  refine ⟨?_, fun pre leaf post h => hcovers.measures h, hcovers.measures_trailing, hcovers.slices,
    ?_, ?_⟩
  · rw [show leaves = _ from hleaves]
    exact map_segment layout (.empty 0) tokens
  · rw [LeafChain.map_fst_leaves]
    exact hunbroken.walk_next
  · rw [LeafChain.map_fst_leaves]
    exact hunbroken.walk_previous

end Layout

end NotebookLayout
