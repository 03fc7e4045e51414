import NotebookLayout.Cell.Split
import NotebookLayout.Proofs.Cell.MarkerLine
import NotebookLayout.Proofs.Document.Lines
import NotebookLayout.Proofs.Partition.Cover

/-!
# Cells of a document

The scan finds marker lines by their text, and the split finds the lines of markers by their
offsets. This file shows that the two agree on every text:

- `exists_line_of_cellMarkers` and `exists_cellMarkers_of_line`: the markers are those of the marker
  lines, and each is on its line;
- `pairwise_cellMarkers`: no two markers are on one line;
- `Interval.Tiles.slices`: the texts of consecutive cells, joined;
- `splitCells_markerLines`: the cells join to the text, none is empty, and they begin at the marker
  lines and nowhere else.
-/

namespace NotebookLayout

/-- The texts of consecutive intervals, joined, lead from the lines up to the first one's start to
those up to the last one's stop. -/
theorem Interval.Tiles.slices {α : Type} (t : Text) {start stop : Nat} {ivs : List (Interval α)}
    (h : Tiles start stop ivs) :
    let doc := Document.ofText t
    ∃ parts, ivs.mapM (fun iv => doc.slice? ⟨doc.metrics.startOf iv.lines.start,
        doc.metrics.startOf iv.lines.stop⟩) = some parts ∧
      ((Text.splitLines t).take start).flatten ++ parts.flatten =
        ((Text.splitLines t).take stop).flatten := by
  intro doc
  induction ivs generalizing start with
  | nil =>
    obtain rfl : start = stop := h
    exact ⟨[], rfl, List.append_nil _⟩
  | cons iv rest ih =>
    obtain ⟨rfl, hle, hrest⟩ := h
    obtain ⟨parts, hparts, hjoin⟩ := ih hrest
    have hslice : doc.slice? ⟨doc.metrics.startOf iv.lines.start,
        doc.metrics.startOf iv.lines.stop⟩ =
          some (((Text.splitLines t).take iv.lines.stop).drop iv.lines.start).flatten :=
      LineIndex.slice?_lines t hle
    -- The slice of the first interval goes on from the lines in front of it.
    refine ⟨_ :: parts, by rw [List.mapM_cons, hslice, hparts]; rfl, ?_⟩
    rw [List.flatten_cons, ← List.append_assoc, Text.flatten_take_append_drop_take _ hle, hjoin]

namespace Document

open MarkerLine

variable {doc : Document} {marker : Text}

/-! ## Markers and their lines -/

/-- A marker begins where its line does. -/
theorem start_ofLine? {line : Line} {ml : MarkerLine} (h : ofLine? marker line = some ml) :
    ml.span.start = line.span.start := by
  obtain ⟨_, -, -, rfl⟩ := ofLine?_eq_some_iff.1 h
  rfl

/-- A marker is that of the line at its offset. -/
theorem exists_line_of_cellMarkers {k : Nat} {m : Marker Attributes}
    (h : (doc.cellMarkers marker)[k]? = some m) :
    ∃ line ml, doc.lines[doc.metrics.lineOf m.offset]? = some line ∧
      ofLine? marker line = some ml ∧ m = toMarker k ml := by
  rw [cellMarkers, List.getElem?_mapIdx] at h
  obtain ⟨ml, hml, rfl⟩ := Option.map_eq_some_iff.1 h
  obtain ⟨line, hmem, hline⟩ := List.mem_filterMap.1 (List.mem_of_getElem? hml)
  obtain ⟨i, hi⟩ := List.getElem?_of_mem hmem
  refine ⟨line, ml, ?_, hline, rfl⟩
  have hon : doc.metrics.lineOf (toMarker k ml).offset = i := by
    rw [toMarker, start_ofLine? hline]
    exact (line_start hi).2
  rw [hon]
  exact hi

/-- A marker line has a marker. -/
theorem exists_cellMarkers_of_line {i : Nat} {line : Line} {ml : MarkerLine}
    (hi : doc.lines[i]? = some line) (h : ofLine? marker line = some ml) :
    ∃ (k : Nat) (m : Marker Attributes), (doc.cellMarkers marker)[k]? = some m ∧
      doc.metrics.lineOf m.offset = i := by
  have hmem : ml ∈ doc.lines.filterMap (ofLine? marker) :=
    List.mem_filterMap.2 ⟨line, List.mem_of_getElem? hi, h⟩
  obtain ⟨k, hk⟩ := List.getElem?_of_mem hmem
  refine ⟨k, toMarker k ml, ?_, ?_⟩
  · rw [cellMarkers, List.getElem?_mapIdx, hk]
    rfl
  · rw [toMarker, start_ofLine? h]
    exact (line_start hi).2

/-- No two markers are on one line, and they are in the order of their lines. -/
theorem pairwise_cellMarkers (doc : Document) (marker : Text) :
    (doc.cellMarkers marker).Pairwise fun a b =>
      doc.metrics.lineOf a.offset < doc.metrics.lineOf b.offset := by
  have hlines : doc.lines.Pairwise fun a b =>
      doc.metrics.lineOf a.span.start < doc.metrics.lineOf b.span.start := by
    refine List.pairwise_iff_getElem.2 fun i j hi hj hij => ?_
    rw [(line_start (List.getElem?_eq_getElem hi)).2, (line_start (List.getElem?_eq_getElem hj)).2]
    exact hij
  have hfound : (doc.lines.filterMap (ofLine? marker)).Pairwise fun a b =>
      doc.metrics.lineOf a.span.start < doc.metrics.lineOf b.span.start := by
    -- A marker line starts where its line starts.
    refine hlines.filterMap _ fun a b hab x hx y hy => ?_
    rwa [start_ofLine? hx, start_ofLine? hy]
  -- Numbering the lines found changes no offset.
  refine List.pairwise_iff_getElem.2 fun i j hi hj hij => ?_
  simp only [cellMarkers, List.getElem_mapIdx, List.length_mapIdx] at hi hj ⊢
  exact List.pairwise_iff_getElem.1 hfound i j hi hj hij

/-- Markers come in the order of their offsets. -/
theorem sorted_cellMarkers (doc : Document) (marker : Text) :
    (doc.cellMarkers marker).Pairwise (·.offset ≤ ·.offset) := by
  -- If a later marker had a smaller offset, its line would be no larger.
  refine (doc.pairwise_cellMarkers marker).imp fun {a b} hab => ?_
  refine Nat.le_of_not_lt fun hlt => ?_
  exact absurd hab (Nat.not_lt_of_le (doc.lawful_metrics.lineOf_mono (Nat.le_of_lt hlt)))

/-! ## Cells -/

/-- A title is not taken for the end. -/
theorem ofTitle_ne_ending (title : Option Text) : Attributes.ofTitle title ≠ ending := by
  cases title with
  | none => simp [Attributes.ofTitle, ending, Attributes.ofKind]
  | some t =>
    -- The two go by different names.
    intro h
    have hkey : Attributes.titleKey = Attributes.kindKey :=
      congrArg Prod.fst (List.cons.inj h).1
    exact absurd hkey (by decide)

/-- In the split at the cell markers, a cell with a marker begins at that marker's line. -/
theorem exists_line_of_marked {i : Nat} {iv : Interval Attributes}
    (hi : (Interval.between 0 (Boundary.all doc.metrics (doc.cellMarkers marker) preamble
      ending))[i]? = some iv) (hmark : iv.marked = true) :
    ∃ line ml, doc.lines[iv.lines.start]? = some line ∧ ofLine? marker line = some ml ∧
      iv.kind = ml.kind ∧ iv.data = .ofTitle ml.title := by
  rcases Interval.start_cases hi with ⟨-, -, -, -, hunmarked, -⟩ | hcell
  · rw [hunmarked] at hmark
    exact absurd hmark (by decide)
  · obtain ⟨m, -, hm, hstart, hkind, -, hdata⟩ := hcell
    obtain ⟨line, ml, hline, hml, rfl⟩ := exists_line_of_cellMarkers hm
    rw [hstart, hkind, hdata]
    exact ⟨line, ml, hline, hml, rfl, rfl⟩

/-- Every text can be split, at every marker. No cell is empty, and the cells joined are the text.
The marker lines are the first lines of the cells with a marker, which take their kind and title;
only the first cell may lack a marker, and is raw text then. -/
theorem splitCells_markerLines (t marker : Text) :
    let doc := ofText t
    ∃ ivs, doc.splitCells marker = .ok ivs ∧
      (∀ iv ∈ ivs, iv.lines.isEmpty = false) ∧
      -- Each cell is sliced from the start of its first line up to the start of the line after it.
      (∃ parts, ivs.mapM (fun iv => doc.slice? ⟨doc.metrics.startOf iv.lines.start,
          doc.metrics.startOf iv.lines.stop⟩) = some parts ∧ parts.flatten = t) ∧
      -- The scan of the lines and the split agree, in both directions.
      (∀ i, (∃ line ml, doc.lines[i]? = some line ∧ ofLine? marker line = some ml) ↔
        ∃ iv ∈ ivs, iv.marked = true ∧ iv.lines.start = i) ∧
      (∀ iv ∈ ivs, iv.marked = true → ∀ line ml, doc.lines[iv.lines.start]? = some line →
        ofLine? marker line = some ml → iv.kind = ml.kind ∧ iv.data = .ofTitle ml.title) ∧
      -- What comes before the first marker is the only cell without one.
      (∀ (i : Nat) (iv : Interval Attributes), ivs[i]? = some iv → iv.marked = false →
        i = 0 ∧ iv.kind = .raw ∧ iv.data = preamble) ∧
      ∀ iv ∈ ivs, iv.data ≠ ending := by
  intro doc
  have hsorted := doc.sorted_cellMarkers marker
  have htiles := Interval.tiles_ofMarkers doc.lawful_metrics hsorted preamble ending
  refine ⟨_, Interval.ofMarkers_eq_ok hsorted preamble ending, ?_, ?_, ?_, ?_, ?_, ?_⟩
  · intro iv hmem
    obtain ⟨i, hi⟩ := List.getElem?_of_mem hmem
    exact Interval.isEmpty_eq_false hi doc.lawful_metrics (doc.pairwise_cellMarkers marker)
      (htiles.forward iv hmem)
  · -- The first cell starts at line 0, in front of which there is no text.
    obtain ⟨parts, hparts, hjoin⟩ := htiles.slices t
    rw [flatten_take_endLine] at hjoin
    exact ⟨parts, hparts, hjoin⟩
  · intro i
    constructor
    · rintro ⟨line, ml, hline, hml⟩
      obtain ⟨k, m, hm, rfl⟩ := exists_cellMarkers_of_line hline hml
      exact Interval.exists_marked hm
    · rintro ⟨iv, hmem, hmark, rfl⟩
      obtain ⟨i, hi⟩ := List.getElem?_of_mem hmem
      obtain ⟨line, ml, hline, hml, -⟩ := exists_line_of_marked hi hmark
      exact ⟨line, ml, hline, hml⟩
  · intro iv hmem hmark line ml hline hml
    obtain ⟨i, hi⟩ := List.getElem?_of_mem hmem
    obtain ⟨line', ml', hline', hml', hkind, hdata⟩ := exists_line_of_marked hi hmark
    obtain rfl : line' = line := Option.some.inj (hline'.symm.trans hline)
    obtain rfl : ml' = ml := Option.some.inj (hml'.symm.trans hml)
    exact ⟨hkind, hdata⟩
  · intro i iv hi hunmarked
    rcases Interval.start_cases hi with ⟨h0, -, -, hkind, -, hdata⟩ | ⟨m, -, -, -, -, hmark, -⟩
    · exact ⟨h0, hkind, hdata⟩
    · rw [hmark] at hunmarked
      exact absurd hunmarked (by decide)
  · intro iv hmem
    obtain ⟨i, hi⟩ := List.getElem?_of_mem hmem
    rcases Interval.start_cases hi with ⟨-, -, -, -, -, hdata⟩ | ⟨m, -, -, -, -, hmark, -⟩
    · rw [hdata]
      decide
    · obtain ⟨line, ml, -, -, -, hdata⟩ := exists_line_of_marked hi hmark
      rw [hdata]
      exact ofTitle_ne_ending ml.title

end Document

end NotebookLayout
