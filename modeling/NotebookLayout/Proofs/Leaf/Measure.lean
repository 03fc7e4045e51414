import NotebookLayout.Proofs.Leaf.Cover
import NotebookLayout.Proofs.Token.Tiling

/-!
# What the builder measures

The builder measures a token with the line geometry of the document: it compares the lines that the
token starts and ends on, and cuts the token's text where the last of them starts. For any token
that has the text at its place, empty ones and those of many lines too, this file tells the outcome
of the token's text alone.

- `slice?_eq_some_iff`: a slice that goes forward is a part of the text;
- `multiline_leaf_iff` and `width_leaf`: line feeds and width of a leaf, told of its text;
- `exists_leaves_build`: where the leaf of a token stands in the chain that is built;
- `build_measured`: the leaf of a token, as the builder makes it.
-/

namespace NotebookLayout

open Text

/-- A slice that goes forward is a part of the text at its place. One that does not is empty, and
may lie anywhere, even inside a character or behind the text. -/
theorem Text.slice?_eq_some_iff {t w : Text} {start stop : Nat} (hlt : start < stop) :
    slice? start stop t = some w ↔
      ∃ a b, t = a ++ w ++ b ∧ byteSize a = start ∧ byteSize (a ++ w) = stop := by
  constructor
  · intro h
    have hcut := h
    rw [slice?, if_neg (Nat.not_le.2 hlt)] at hcut
    obtain ⟨⟨a, rest⟩, hcut, -⟩ := Option.bind_eq_some_iff.1 hcut
    obtain ⟨rfl, rfl⟩ := splitAt?_eq_some_iff.1 hcut
    obtain ⟨b, rfl, hstop⟩ := exists_of_slice?_append (Nat.le_of_lt hlt) h
    refine ⟨a, b, (List.append_assoc a w b).symm, rfl, ?_⟩
    rw [byteSize_append, hstop]
  · rintro ⟨a, b, rfl, rfl, rfl⟩
    rw [byteSize_append]
    exact slice?_append a w b

namespace Layout

variable {t : Text} {layout : Layout} {token : Token}

/-! ## One token -/

/-- An empty token starts and ends on one line, and has no columns on it. -/
theorem measures_of_nil (layout : Layout) (htext : token.text = [])
    (hspan : token.span.start = token.span.stop) :
    layout.isMultiline token = false ∧ layout.width token = 0 := by
  have hmultiline : layout.isMultiline token = false := by
    rw [isMultiline, hspan]
    exact decide_eq_false fun h => h rfl
  refine ⟨hmultiline, ?_⟩
  rw [width, lastPart, lastLineStart, hmultiline, htext]
  simp [dropBytes?, splitAt?, columns]

section

variable (hmetrics : layout.metrics = (Document.ofText t).metrics)
  (hle : token.span.start ≤ token.span.stop)
  (hslice : (Document.ofText t).slice? token.span = some token.text)

include hmetrics hle hslice

/-- What is measured of a token that has the text at its place. -/
theorem measures_eq :
    layout.isMultiline token = decide ('\n' ∈ token.text) ∧
      layout.width token = lastLineColumns layout.tabSize token.text := by
  rcases Nat.eq_or_lt_of_le hle with heq | hlt
  · -- An empty token need not lie between characters of the text.
    have htext : token.text = [] := by
      rw [Document.slice?, slice?, if_pos (Nat.le_of_eq heq.symm)] at hslice
      exact (Option.some.inj hslice).symm
    obtain ⟨hmultiline, hwidth⟩ := layout.measures_of_nil htext heq
    rw [hmultiline, hwidth, htext]
    exact ⟨rfl, rfl⟩
  · obtain ⟨a, b, rfl, hstart, hstop⟩ := (slice?_eq_some_iff hlt).1 hslice
    have hspan : token.span = ⟨byteSize a, byteSize (a ++ token.text)⟩ := by
      rw [hstart, hstop]
    exact ⟨isMultiline_eq hmetrics hspan, width_eq hmetrics hspan⟩

/-- The leaf runs over several lines just if its text has a line feed. -/
theorem multiline_leaf_iff (gap : Gap) :
    (layout.leaf token gap).multiline = true ↔ '\n' ∈ token.text := by
  change layout.isMultiline token = true ↔ _
  rw [(measures_eq hmetrics hle hslice).1, decide_eq_true_iff]

/-- The leaf is as wide as its text behind the last line feed. -/
theorem width_leaf (gap : Gap) :
    (layout.leaf token gap).width = lastLineColumns layout.tabSize token.text :=
  (measures_eq hmetrics hle hslice).2

end

/-! ## The tokens around it -/

/-- The leaf of a token stands behind those of the tokens in front of it. -/
theorem exists_leaves_build (layout : Layout) (before after : List Token) {token : Token}
    (h : ¬token.kind.isTrivia = true) :
    ∃ gap rest, (layout.build (before ++ token :: after)).1.leaves.map (·.2) =
      (layout.build before).1.leaves.map (·.2) ++ layout.leaf token gap :: rest := by
  -- The same, of a builder that is told where the first gap starts.
  have hfold : ∀ start, ∃ gap rest,
      ((before ++ token :: after).foldl layout.step (.empty, .empty start)).1.leaves.map (·.2) =
        (before.foldl layout.step (.empty, .empty start)).1.leaves.map (·.2) ++
          layout.leaf token gap :: rest := by
    intro start
    obtain ⟨hunbroken, -, -⟩ :=
      layout.foldl_step before (.empty start) LeafChain.unbroken_empty
    obtain ⟨-, hleaves, -⟩ := layout.foldl_step (token :: after)
      (before.foldl layout.step (.empty, .empty start)).2 hunbroken
    rw [segment, if_neg h] at hleaves
    rw [List.foldl_append]
    exact ⟨_, _, hleaves⟩
  cases before with
  | nil => exact hfold token.span.start
  | cons first before => exact hfold first.span.start

/-- Of a token with the text at its place, be it empty or of many lines and whatever its kind, the
leaf runs over several lines just if the token's text has a line feed, and it is as wide as the part
of that text after the last one. If the token is no trivia, then this leaf is what the builder puts
behind the leaves of the tokens in front, whatever those tokens are and the ones that follow. -/
theorem build_measured (hle : token.span.start ≤ token.span.stop)
    (hslice : (Document.ofText t).slice? token.span = some token.text) (tabSize : Nat)
    (readOnly : List Span) :
    let layout : Layout := ⟨(Document.ofText t).metrics, tabSize, readOnly⟩
    let leaves (tokens : List Token) : List Leaf := (layout.build tokens).1.leaves.map (·.2)
    (∀ gap, ((layout.leaf token gap).multiline = true ↔ '\n' ∈ token.text) ∧
        (layout.leaf token gap).width = lastLineColumns tabSize token.text) ∧
      ∀ before after, ¬token.kind.isTrivia = true → ∃ gap rest,
        leaves (before ++ token :: after) = leaves before ++ layout.leaf token gap :: rest := by
  intro layout leaves
  exact ⟨fun gap => ⟨multiline_leaf_iff rfl hle hslice gap, width_leaf rfl hle hslice gap⟩,
    fun before after htrivia => layout.exists_leaves_build before after htrivia⟩

/-- A token that ends with the document right after a line feed, and the one without that feed. -/
theorem build_measured_after_feed :
    let t := "x b\n\t日\n".toList
    let layout : Layout := ⟨(Document.ofText t).metrics, 8, []⟩
    let whole : Token := ⟨.word, "b\n\t日\n".toList, ⟨2, 9⟩⟩
    let part : Token := ⟨.quotation, "b\n\t日".toList, ⟨2, 8⟩⟩
    ((layout.leaf whole (.empty 2)).multiline = true ∧ (layout.leaf whole (.empty 2)).width = 0) ∧
      (layout.leaf part (.empty 2)).multiline = true ∧
      (layout.leaf part (.empty 2)).width = 10 := by
  intro t layout whole part
  have hle : whole.span.start ≤ whole.span.stop := by decide
  have hslice : (Document.ofText t).slice? whole.span = some whole.text := by decide +kernel
  have hle' : part.span.start ≤ part.span.stop := by decide
  have hslice' : (Document.ofText t).slice? part.span = some part.text := by decide +kernel
  obtain ⟨hmultiline, hwidth⟩ := (build_measured hle hslice 8 []).1 (.empty 2)
  obtain ⟨hmultiline', hwidth'⟩ := (build_measured hle' hslice' 8 []).1 (.empty 2)
  exact ⟨⟨hmultiline.2 (by decide), hwidth.trans (by decide +kernel)⟩,
    hmultiline'.2 (by decide), hwidth'.trans (by decide +kernel)⟩

end Layout

end NotebookLayout
