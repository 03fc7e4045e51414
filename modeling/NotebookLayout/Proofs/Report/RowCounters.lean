import NotebookLayout.Proofs.Leaf.ChainCounters
import NotebookLayout.Proofs.Report.Rows

/-!
# Leaf rows in counters

A report takes the numbers of its rows from counters. With wrapping sums every text has rows, and
they have lost the high bits of their numbers; with either sums, a text whose lines fit has the
exact rows.

Main statements: `Report.leafRowsWith_wrapping` and `Report.leafRowsWith_of_linesFit`, together
`Report.exists_leafRowsWith`.
-/

namespace NotebookLayout

open Text

/-- A list that can be mapped with some results can be mapped along with them. -/
theorem mapM_eq_ok_of_forall {α β γ ε : Type} {f : α → Option β} {g : α → Except ε γ} {φ : β → γ}
    {l : List α} {bs : List β} (hg : ∀ a ∈ l, ∀ b, f a = some b → g a = .ok (φ b))
    (h : l.mapM f = some bs) : l.mapM g = .ok (bs.map φ) := by
  induction l generalizing bs with
  | nil =>
    obtain rfl := Option.some.inj h
    rfl
  | cons a l ih =>
    rw [List.mapM_cons] at h
    obtain ⟨b, hb, h⟩ := Option.bind_eq_some_iff.1 h
    obtain ⟨rest, hrest, h⟩ := Option.bind_eq_some_iff.1 h
    obtain rfl := Option.some.inj h
    rw [List.mapM_cons, hg a List.mem_cons_self b hb,
      ih (fun c hc => hg c (List.mem_cons_of_mem a hc)) hrest]
    rfl

/-! ## Rows without their high bits -/

/-- The row with the high bits of its columns lost. -/
def LeafRow.wrap (row : LeafRow) : LeafRow :=
  { row with
    width := row.width % wordLimit
    indentSpaces := row.indentSpaces % wordLimit
    spaces := row.spaces % wordLimit }

/-- The row of a leaf that has lost high bits has lost them. -/
theorem LeafRow.behind?_wrap (doc : Document) (d : Indent) (leaf : Leaf) :
    behind? doc d.wrap leaf.wrap = (behind? doc d leaf).map LeafRow.wrap := by
  have hspan : leaf.wrap.span = leaf.span := rfl
  rw [behind?, behind?, hspan]
  cases doc.preview? leaf.span previewSize <;> rfl

/-- What a chain that has lost high bits has in its slots. -/
theorem LeafChain.entries_wrap (chain : LeafChain) :
    chain.wrap.entries = chain.entries.map fun (id, node) => (id, node.wrap) := by
  have hsize : chain.wrap.slots.size = chain.slots.size := Array.size_map
  rw [entries, entries, hsize, List.map_filterMap]
  refine List.filterMap_congr fun id _ => ?_
  rw [get?_wrap, Option.map_map, Option.map_map]
  rfl

/-- A chain that has lost high bits has its leaves at the same places. -/
theorem LeafChain.map_span_leaves_wrap (chain : LeafChain) :
    chain.wrap.leaves.map (·.2.span) = chain.leaves.map (·.2.span) := by
  rw [leaves, leaves, entries_wrap, List.map_map, List.map_map, List.map_map]
  rfl

namespace Report

/-- The row of a leaf in a chain whose indents are known. -/
theorem leafRowWith_eq_ok {arith : Arithmetic} {doc : Document} {chain : LeafChain} {id : LeafId}
    {leaf : Leaf} {d : Option Indent} {row : LeafRow} (hindent : chain.indentWith arith id = .ok d)
    (hrow : LeafRow.behind? doc (d.getD 0) leaf = some row) :
    leafRowWith arith doc chain id leaf = .ok row := by
  simp only [leafRowWith, hindent, Except.mapError, bind, Except.bind, hrow]
  rfl

/-- A chain that has lost high bits gives rows that have lost them. -/
theorem chainRowsWith_wrap {doc : Document} {chain : LeafChain} {rows : List LeafRow}
    (hfeeds : ∀ id node, chain.get? id = some node → node.leaf.gap.lineFeeds < wordLimit)
    (hrows : LeafRow.ofChain? doc chain = some rows) :
    chainRowsWith .wrapping doc chain.wrap = .ok (rows.map LeafRow.wrap) := by
  rw [chainRowsWith, LeafChain.entries_wrap, List.mapM_map]
  refine mapM_eq_ok_of_forall (fun ⟨id, node⟩ hmem row hrow => ?_) hrows
  have hindent : chain.wrap.indentWith .wrapping id = .ok ((chain.indent? id).map Indent.wrap) := by
    rw [LeafChain.indentWith_wrap hfeeds, LeafChain.indentWith_eq]
    cases chain.indent? id <;> rfl
  have hgetD : ((chain.indent? id).map Indent.wrap).getD 0 = ((chain.indent? id).getD 0).wrap := by
    cases chain.indent? id <;> rfl
  refine leafRowWith_eq_ok hindent ?_
  rw [hgetD]
  have hwrap := LeafRow.behind?_wrap doc ((chain.indent? id).getD 0) node.leaf
  exact hwrap.trans (congrArg (Option.map LeafRow.wrap) hrow)

/-- A chain whose indents fit gives the exact rows. -/
theorem chainRowsWith_of_fits (arith : Arithmetic) {doc : Document} {chain : LeafChain}
    {rows : List LeafRow} (hfits : ∀ id d, chain.indent? id = some d → d.Fits)
    (hrows : LeafRow.ofChain? doc chain = some rows) :
    chainRowsWith arith doc chain = .ok rows := by
  rw [← List.map_id rows]
  refine mapM_eq_ok_of_forall (fun ⟨id, node⟩ hmem row hrow => ?_) hrows
  refine leafRowWith_eq_ok (d := chain.indent? id) ?_ hrow
  rw [LeafChain.indentWith_eq]
  cases hindent : chain.indent? id with
  | none => rfl
  | some d =>
    rw [Option.mapM_some, (hfits id d hindent).fit arith]
    rfl

/-- The rows of a document are those of the chain that is built of it. -/
theorem leafRowsWith_of_buildWith {arith : Arithmetic} {doc : Document} {tabSize : Nat}
    {built : LeafChain × Gap}
    (h : Layout.buildWith arith { metrics := doc.metrics, tabSize } (Token.ofText doc.text) =
      .ok built) :
    leafRowsWith arith doc tabSize = chainRowsWith arith doc built.1 := by
  rw [leafRowsWith]
  dsimp only
  rw [h]
  rfl

variable {t : Text} (hsize : byteSize t < wordLimit)

include hsize

/-- With wrapping sums, every text has leaf rows, and they have lost the high bits of their
columns. -/
theorem leafRowsWith_wrapping (tabSize : Nat) :
    leafRowsWith .wrapping (.ofText t) tabSize =
      .ok ((LeafRow.ofLexemes tabSize 0 0 (Lexeme.ofText t)).map LeafRow.wrap) := by
  let layout : Layout := { metrics := (Document.ofText t).metrics, tabSize }
  have hbuilt := layout.buildWith_wrapping (Layout.span_lt_of_mem_ofText hsize)
  have hchain := chainRowsWith_wrap (fun id node => Layout.lineFeeds_lt_of_get?_build hsize)
    (ofChain?_build t tabSize)
  exact (leafRowsWith_of_buildWith hbuilt).trans hchain

/-- A text whose lines fit has the exact leaf rows. -/
theorem leafRowsWith_of_linesFit (arith : Arithmetic) {tabSize : Nat}
    (hfits : LinesFit tabSize t) :
    leafRowsWith arith (.ofText t) tabSize =
      .ok (LeafRow.ofLexemes tabSize 0 0 (Lexeme.ofText t)) := by
  let layout : Layout := { metrics := (Document.ofText t).metrics, tabSize }
  have hbuilt : layout.buildWith arith (Token.ofText t) = .ok (layout.build (Token.ofText t)) :=
    Layout.buildWith_of_linesFit arith rfl hfits hsize
  have hchain := chainRowsWith_of_fits arith
    (fun id d => Layout.fits_of_indent?_build rfl hfits) (ofChain?_build t tabSize)
  exact (leafRowsWith_of_buildWith hbuilt).trans hchain

/-- With wrapping sums, and with checked sums if the lines fit, there are leaf rows. They show the
same leaves as the exact rows do. -/
theorem exists_leafRowsWith {arith : Arithmetic} {tabSize : Nat}
    (hfits : arith = .checked → LinesFit tabSize t) :
    let exactRows := LeafRow.ofLexemes tabSize 0 0 (Lexeme.ofText t)
    ∃ rows, leafRowsWith arith (.ofText t) tabSize = .ok rows ∧
      rows.map (·.line) = exactRows.map (·.line) ∧ rows.map (·.text) = exactRows.map (·.text) ∧
      (LinesFit tabSize t → rows = exactRows) ∧
      (arith = .wrapping → rows = exactRows.map LeafRow.wrap) := by
  intro exactRows
  cases arith with
  | checked =>
    have hrows := leafRowsWith_of_linesFit hsize .checked (hfits rfl)
    exact ⟨exactRows, hrows, rfl, rfl, fun _ => rfl, nofun⟩
  | wrapping =>
    have hrows := leafRowsWith_wrapping hsize tabSize
    refine ⟨exactRows.map LeafRow.wrap, hrows, ?_, ?_, fun h => ?_, fun _ => rfl⟩
    · rw [List.map_map]
      rfl
    · rw [List.map_map]
      rfl
    · -- Two ways to make the rows come to one result.
      exact Except.ok.inj (hrows.symm.trans (leafRowsWith_of_linesFit hsize .wrapping h))

end Report

end NotebookLayout
