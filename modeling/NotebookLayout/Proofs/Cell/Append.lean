import NotebookLayout.Proofs.Cell.Split
import NotebookLayout.Proofs.Span

/-!
# Cells of joined texts

A text that ends a line can be put in front of another one, and the cells of the two stay what they
are, up to where they lie:

- `Document.lines_append`: the lines are those of the first text, and those of the second moved;
- `Document.cellMarkers_append`: so are the cell markers;
- `Boundary.all_append`: so are the boundaries, if the second text begins with a marker line;
- `Document.splitCells_append`: so are the cells, but for the line that the end of the first text
  opens, which is the first line of the second text.
-/

namespace NotebookLayout

open Text

variable {α : Type}

/-! ## Things moved -/

/-- The line `bytes` further on. -/
def Line.moved (bytes : Nat) (line : Line) : Line := { line with span := line.span.moved bytes }

/-- The marker line `bytes` further on. -/
def MarkerLine.moved (bytes : Nat) (ml : MarkerLine) : MarkerLine :=
  { ml with span := ml.span.moved bytes }

/-- The marker `bytes` further on and behind `count` more markers. -/
def Marker.moved (bytes count : Nat) (marker : Marker α) : Marker α :=
  { marker with ordinal := marker.ordinal + count, offset := marker.offset + bytes }

/-- The boundary `lines` further on. -/
def Boundary.moved (lines : Nat) (boundary : Boundary α) : Boundary α :=
  { boundary with line := boundary.line + lines }

/-- The interval `lines` further on and behind `count` more intervals. -/
def Interval.moved (lines count : Nat) (iv : Interval α) : Interval α where
  ordinal := iv.ordinal + count
  kind := iv.kind
  lines := ⟨iv.lines.start + lines, iv.lines.stop + lines⟩
  marked := iv.marked
  data := iv.data

/-- The interval with another end. -/
def Interval.endingAt (stop : Nat) (iv : Interval α) : Interval α :=
  { iv with lines := ⟨iv.lines.start, stop⟩ }

/-! ## Lines of joined texts -/

namespace Line

/-- The lines of the second text lie behind those of the first. -/
theorem place_append (offset : Nat) (ss ts : List Text) :
    place offset (ss ++ ts) = place offset ss ++ place (offset + byteSize ss.flatten) ts := by
  induction ss generalizing offset with
  | nil => rfl
  | cons s ss ih =>
    rw [List.cons_append, place, place, ih, List.flatten_cons, byteSize_append, Nat.add_assoc]
    rfl

/-- Lines that begin further on are the same lines, further on. -/
theorem place_add (bytes offset : Nat) (ts : List Text) :
    place (offset + bytes) ts = (place offset ts).map (moved bytes) := by
  induction ts generalizing offset with
  | nil => rfl
  | cons t ts ih =>
    rw [place, place, List.map_cons, ← ih]
    simp only [moved, Span.moved, Nat.add_right_comm]

end Line

/-- A text that ends a line keeps its lines, and the lines of what follows are moved behind it. -/
theorem Document.lines_append {a : Text} (ha : EndsLine a) (b : Text) :
    (ofText (a ++ b)).lines =
      (ofText a).lines ++ (ofText b).lines.map (Line.moved (byteSize a)) := by
  change Line.place 0 (splitLines (a ++ b)) = Line.place 0 (splitLines a) ++
    (Line.place 0 (splitLines b)).map _
  rw [splitLines_append ha, Line.place_append, flatten_splitLines, Line.place_add]

/-- Offsets count from the start of the text, so those of a text that begins later are larger. -/
theorem Text.offsetsOf_add (x : Char) (bytes offset : Nat) (t : Text) :
    offsetsOf x (offset + bytes) t = (offsetsOf x offset t).map (· + bytes) := by
  induction t generalizing offset with
  | nil => rfl
  | cons c t ih =>
    rw [offsetsOf, offsetsOf, Nat.add_right_comm, ih]
    split <;> rfl

namespace LineIndex

/-- What follows a text does not change the lines of its offsets. -/
theorem lineOf_append_left (a b : Text) {offset : Nat} (h : offset ≤ byteSize a) :
    (ofText (a ++ b)).lineOf offset = (ofText a).lineOf offset := by
  -- No line feed of `b` is in front of the offset.
  have hnone : (offsetsOf '\n' (0 + byteSize a) b).countP (· < offset) = 0 := by
    refine List.countP_eq_zero.2 fun k hk => ?_
    have := (bounds_of_mem_offsetsOf hk).1
    rw [decide_eq_true_iff]
    omega
  rw [lineOf_eq_countP, lineOf_eq_countP, offsetsOf_append, List.countP_append, hnone,
    Nat.add_zero]

/-- An offset in the second text is as many lines further on as the first text has line feeds. -/
theorem lineOf_append_right (a b : Text) (offset : Nat) :
    (ofText (a ++ b)).lineOf (offset + byteSize a) =
      (ofText b).lineOf offset + a.count '\n' := by
  -- Every line feed of `a` is in front of the offset.
  have hall : (offsetsOf '\n' 0 a).countP (· < offset + byteSize a) = a.count '\n' := by
    rw [← length_offsetsOf '\n' 0 a, List.countP_eq_length]
    intro k hk
    have := (bounds_of_mem_offsetsOf hk).2
    rw [decide_eq_true_iff]
    omega
  rw [lineOf_eq_countP, lineOf_eq_countP, offsetsOf_append, List.countP_append, hall,
    offsetsOf_add, List.countP_map, Nat.add_comm]
  congr 1
  refine List.countP_congr fun k _ => ?_
  simp

end LineIndex

/-! ## Markers of joined texts -/

/-- What a line says is a matter of its content, and where it says it of its start. -/
theorem MarkerLine.ofLine?_of_content_eq {line line' : Line} {bytes : Nat} (marker : Text)
    (hcontent : line'.content = line.content)
    (hstart : line'.span.start = line.span.start + bytes) :
    ofLine? marker line' = (ofLine? marker line).map (moved bytes) := by
  unfold ofLine?
  rw [hcontent, hstart]
  cases marker.isPrefixOf? line.content with
  | none => rfl
  | some rest =>
    rw [Option.bind_eq_bind, Option.bind_some, Option.bind_eq_bind, Option.bind_some]
    cases endsMarker rest with
    | false => rfl
    | true =>
      rw [Nat.add_right_comm]
      rfl

/-- The marker of a line that is moved is the marker moved. -/
theorem MarkerLine.toMarker_moved (ordinal count bytes : Nat) (ml : MarkerLine) :
    toMarker (ordinal + count) (ml.moved bytes) = (toMarker ordinal ml).moved bytes count := by
  rw [toMarker, toMarker, moved, Span.size_moved]
  rfl

namespace Document

open MarkerLine

/-- The markers of the second text are moved behind those of the first, and numbered on. -/
theorem cellMarkers_append {a : Text} (ha : EndsLine a) (b marker : Text) :
    let before := (ofText a).cellMarkers marker
    (ofText (a ++ b)).cellMarkers marker =
      before ++ ((ofText b).cellMarkers marker).map (Marker.moved (byteSize a) before.length) := by
  intro before
  have hmoved : ((ofText b).lines.map (Line.moved (byteSize a))).filterMap (ofLine? marker) =
      ((ofText b).lines.filterMap (ofLine? marker)).map (MarkerLine.moved (byteSize a)) := by
    rw [List.filterMap_map, List.map_filterMap]
    congr 1
    funext line
    exact ofLine?_of_content_eq marker rfl rfl
  have hbefore : ((ofText a).lines.filterMap (ofLine? marker)).length = before.length :=
    List.length_mapIdx.symm
  rw [cellMarkers, lines_append ha, List.filterMap_append, List.mapIdx_append, hmoved, hbefore]
  congr 1
  refine List.ext_getElem? fun i => ?_
  simp only [cellMarkers, List.getElem?_mapIdx, List.getElem?_map, Option.map_map]
  congr 1
  funext ml
  exact toMarker_moved i before.length (byteSize a) ml

/-- A marker is where its line starts, at which the text can be cut. -/
theorem exists_append_of_mem_cellMarkers {t marker : Text} {m : Marker Attributes}
    (h : m ∈ (ofText t).cellMarkers marker) : ∃ a b, t = a ++ b ∧ m.offset = byteSize a := by
  obtain ⟨k, hk⟩ := List.getElem?_of_mem h
  rw [cellMarkers, List.getElem?_mapIdx] at hk
  obtain ⟨ml, hml, rfl⟩ := Option.map_eq_some_iff.1 hk
  obtain ⟨line, hmem, hline⟩ := List.mem_filterMap.1 (List.mem_of_getElem? hml)
  obtain ⟨i, hi⟩ := List.getElem?_of_mem hmem
  have hstart := (Line.getElem?_place_eq_some_iff.1 hi).2.1
  refine ⟨((splitLines t).take i).flatten, ((splitLines t).drop i).flatten, ?_, ?_⟩
  · rw [← List.flatten_append, List.take_append_drop, flatten_splitLines]
  · rw [toMarker, start_ofLine? hline, hstart, Nat.zero_add]
    rfl

/-- A marker lies in its text. -/
theorem offset_le_of_mem_cellMarkers {t marker : Text} {m : Marker Attributes}
    (h : m ∈ (ofText t).cellMarkers marker) : m.offset ≤ byteSize t := by
  obtain ⟨a, b, rfl, hoffset⟩ := exists_append_of_mem_cellMarkers h
  rw [hoffset, byteSize_append]
  exact Nat.le_add_right _ _

/-- The last line of a document is opened by the last line feed, if there is one. -/
theorem endLine_ofText (t : Text) : (ofText t).metrics.endLine = t.count '\n' + 1 := by
  change max (LineIndex.ofText t).lineCount 1 = t.count '\n' + 1
  rw [LineIndex.lineCount_ofText]
  split
  next h =>
    rw [h]
    rfl
  next => exact Nat.max_eq_left (Nat.le_add_left 1 _)

end Document

/-! ## Boundaries of joined texts -/

/-- The geometry is that of one document, `bytes` long and with `lines` full lines, and then that of
another one. -/
structure LineMetrics.Joins (bytes lines : Nat) (front back m : LineMetrics) : Prop where
  lineOf_front : ∀ offset ≤ bytes, m.lineOf offset = front.lineOf offset
  lineOf_back : ∀ offset, m.lineOf (offset + bytes) = back.lineOf offset + lines
  endLine_front : front.endLine = lines + 1
  endLine_back : m.endLine = back.endLine + lines

/-- The geometry of two texts joined is made of those of the parts. -/
theorem Document.joins_metrics (a b : Text) :
    LineMetrics.Joins (byteSize a) (a.count '\n') (ofText a).metrics (ofText b).metrics
      (ofText (a ++ b)).metrics where
  lineOf_front _ h := LineIndex.lineOf_append_left a b h
  lineOf_back := LineIndex.lineOf_append_right a b
  endLine_front := endLine_ofText a
  endLine_back := by
    rw [endLine_ofText, endLine_ofText, List.count_append]
    omega

section Split

variable {bytes lines : Nat} {front back m : LineMetrics} {before after : List (Marker α)}

namespace Boundary

/-- The boundaries that markers give, without the one at the end. -/
def opening (m : LineMetrics) (first : α) (markers : List (Marker α)) : List (Boundary α) :=
  head m first markers ++ markers.map (ofMarker m)

/-- There is a boundary in front of the end, even without markers. -/
theorem opening_ne_nil (m : LineMetrics) (first : α) (markers : List (Marker α)) :
    opening m first markers ≠ [] := by
  rcases head_cases m first markers with h | ⟨-, marker, rest, rfl, -⟩
  · simp [opening, h]
  · simp [opening]

/-- Markers behind those of a document that has a full line give no boundary without a marker. -/
theorem all_append (h : LineMetrics.Joins bytes lines front back m) (hlines : 0 < lines)
    (hbefore : ∀ marker ∈ before, marker.offset ≤ bytes)
    (hafter : ∃ marker rest, after = marker :: rest ∧ back.lineOf marker.offset = 0)
    (count : Nat) (first last : α) :
    all m (before ++ after.map (Marker.moved bytes count)) first last =
      opening front first before ++ (all back after first last).map (moved lines) := by
  have hmap : before.map (ofMarker m) = before.map (ofMarker front) := by
    refine List.map_congr_left fun marker hmem => ?_
    rw [ofMarker, ofMarker, h.lineOf_front _ (hbefore marker hmem)]
  have hmoved : (after.map (Marker.moved bytes count)).map (ofMarker m) =
      (after.map (ofMarker back)).map (moved lines) := by
    rw [List.map_map, List.map_map]
    refine List.map_congr_left fun marker _ => ?_
    simp only [Function.comp_apply, ofMarker, Marker.moved, moved, h.lineOf_back]
  obtain ⟨marker, rest, rfl, hline⟩ := hafter
  have hhead : head m first (before ++ (marker :: rest).map (Marker.moved bytes count)) =
      head front first before := by
    cases before with
    | nil =>
      -- The first marker of all is behind a full line.
      have hne : m.lineOf (marker.offset + bytes) ≠ 0 := by
        rw [h.lineOf_back]
        omega
      exact if_neg hne
    | cons x before =>
      rw [List.cons_append, head, head, h.lineOf_front _ (hbefore x List.mem_cons_self)]
  have hback : head back first (marker :: rest) = [] := if_pos hline
  rw [all, all, hhead, hback, List.map_append, hmap, hmoved, opening, h.endLine_back]
  simp [moved, unmarked]

end Boundary

namespace Interval

/-- The intervals between boundaries, cut at one of them. -/
theorem between_append (ordinal : Nat) (front : List (Boundary α)) (x : Boundary α)
    (rest : List (Boundary α)) :
    between ordinal (front ++ x :: rest) =
      between ordinal (front ++ [x]) ++ between (ordinal + front.length) (x :: rest) := by
  induction front generalizing ordinal with
  | nil => rfl
  | cons a front ih =>
    have hlength : ordinal + (a :: front).length = ordinal + 1 + front.length := by
      rw [List.length_cons, Nat.add_comm front.length, Nat.add_assoc]
    have ih := ih (ordinal + 1)
    rw [← hlength] at ih
    cases front with
    | nil => exact congrArg (_ :: ·) ih
    | cons b front => exact congrArg (_ :: ·) ih

/-- Intervals between boundaries that are moved are moved with them. -/
theorem between_moved (lines count ordinal : Nat) (bs : List (Boundary α)) :
    between (ordinal + count) (bs.map (Boundary.moved lines)) =
      (between ordinal bs).map (moved lines count) :=
  between_map count (fun _ _ _ => rfl) ordinal bs

/-- Joined geometries give the intervals of both, but the last one of the front ends where the back
begins. -/
theorem between_all_append (h : LineMetrics.Joins bytes lines front back m) (hlines : 0 < lines)
    (hbefore : ∀ marker ∈ before, marker.offset ≤ bytes)
    (hafter : ∃ marker rest, after = marker :: rest ∧ back.lineOf marker.offset = 0)
    (count : Nat) (first last : α) :
    ∃ init iv, between 0 (Boundary.all front before first last) = init ++ [iv] ∧
      iv.lines.stop = lines + 1 ∧
      between 0 (Boundary.all m (before ++ after.map (Marker.moved bytes count)) first last) =
        init ++ [iv.endingAt lines] ++
          (between 0 (Boundary.all back after first last)).map (moved lines (init.length + 1)) := by
  obtain ⟨bs, z, hopening⟩ := List.eq_nil_or_concat (Boundary.opening front first before)
    |>.resolve_left (Boundary.opening_ne_nil front first before)
  rw [List.concat_eq_append] at hopening
  obtain ⟨x, rest, hall, hx⟩ := Boundary.line_first back after first last
  have hlength : (between 0 (bs ++ [z])).length = bs.length := by simp [length_between]
  -- The last boundary of the front begins the interval that reaches over the seam.
  refine ⟨between 0 (bs ++ [z]), ⟨bs.length, z.kind, ⟨z.line, front.endLine⟩, z.marked, z.data⟩,
    ?_, h.endLine_front, ?_⟩
  · rw [Boundary.all, ← Boundary.opening, hopening, List.append_assoc, List.singleton_append,
      between_append, Nat.zero_add]
    rfl
  · have hmoved := between_moved lines (bs.length + 1) 0 (Boundary.all back after first last)
    rw [Boundary.all_append h hlines hbefore hafter, hopening, List.append_assoc,
      List.singleton_append, between_append, hlength, ← hmoved, Nat.zero_add, Nat.zero_add, hall,
      List.map_cons, between, List.append_assoc, Boundary.moved, hx, Nat.zero_add]
    rfl

end Interval

end Split

/-! ## Cells of joined texts -/

namespace Document

open MarkerLine

/-- The cells of a document are the intervals between the boundaries that its markers give. -/
theorem splitCells_eq_ok (doc : Document) (marker : Text) :
    doc.splitCells marker = .ok (Interval.between 0
      (Boundary.all doc.metrics (doc.cellMarkers marker) preamble ending)) :=
  Interval.ofMarkers_eq_ok (doc.sorted_cellMarkers marker) preamble ending

/-- A document that begins with a marker line has its first marker there. -/
theorem exists_cellMarkers_eq_cons {doc : Document} {marker : Text} {line : Line} {ml : MarkerLine}
    (hline : doc.lines[0]? = some line) (hml : ofLine? marker line = some ml) :
    ∃ m rest, doc.cellMarkers marker = m :: rest ∧ doc.metrics.lineOf m.offset = 0 := by
  obtain ⟨rest, hlines⟩ : ∃ rest, doc.lines = line :: rest := by
    cases h : doc.lines with
    | nil => simp [h] at hline
    | cons _ rest =>
      rw [h] at hline
      exact ⟨rest, by rw [Option.some.inj hline]⟩
  have hmarkers : doc.cellMarkers marker = toMarker 0 ml ::
      (rest.filterMap (ofLine? marker)).mapIdx fun i => toMarker (i + 1) := by
    rw [cellMarkers, hlines, List.filterMap_cons_some hml, List.mapIdx_cons]
  refine ⟨_, _, hmarkers, ?_⟩
  rw [toMarker, start_ofLine? hml]
  exact (line_start hline).2

/-- Behind a text that ends a line come the markers of the other text, moved. If that one begins
with a marker line, its cells come too, and the last cell in front of them gives up the line that
the end of the first text opens. An empty first text leaves no cell. -/
theorem splitCells_append {a : Text} (ha : EndsLine a) (b marker : Text) :
    let before := (ofText a).cellMarkers marker
    let lines := a.count '\n'
    (ofText (a ++ b)).cellMarkers marker =
        before ++ ((ofText b).cellMarkers marker).map (Marker.moved (byteSize a) before.length) ∧
      ((∃ line ml, (ofText b).lines[0]? = some line ∧ ofLine? marker line = some ml) →
        ∃ init last back, (ofText a).splitCells marker = .ok (init ++ [last]) ∧
          last.lines.stop = lines + 1 ∧ (ofText b).splitCells marker = .ok back ∧
          let front := init ++ if a = [] then [] else [last.endingAt lines]
          (ofText (a ++ b)).splitCells marker =
            .ok (front ++ back.map (Interval.moved lines front.length))) := by
  intro before lines
  have hmarkers := cellMarkers_append ha b marker
  refine ⟨hmarkers, ?_⟩
  rintro ⟨line, ml, hline, hml⟩
  have hback := (ofText b).splitCells_eq_ok marker
  by_cases hnil : a = []
  · -- The only cell of the empty text is dropped, and nothing is moved.
    subst hnil
    refine ⟨[], ⟨0, .raw, ⟨0, 1⟩, false, preamble⟩, _, rfl, rfl, hback, ?_⟩
    have hid : (Interval.moved 0 0 : Interval Attributes → Interval Attributes) = id := rfl
    change (ofText b).splitCells marker = .ok (List.map (Interval.moved 0 0) _)
    rw [hid, List.map_id]
    exact hback
  · -- The joined text has a boundary where the second text begins, in place of the closing one of
    -- the first text and the opening one of the second.
    have hlines : 0 < lines :=
      List.count_pos_iff.2 (List.mem_of_getLast? (ha.resolve_left hnil))
    obtain ⟨init, last, hfront, hstop, hall⟩ := Interval.between_all_append (joins_metrics a b)
      hlines (fun _ => offset_le_of_mem_cellMarkers) (exists_cellMarkers_eq_cons hline hml)
      before.length preamble ending
    refine ⟨init, last, _, ?_, hstop, hback, ?_⟩
    · rw [splitCells_eq_ok, hfront]
    · rw [if_neg hnil]
      intro front
      have hlength : front.length = init.length + 1 := List.length_append
      rw [hlength, splitCells_eq_ok, hmarkers]
      exact congrArg _ hall

/-- Plain lines and a code cell, and behind them a text that begins with a marker line. -/
theorem splitCells_append_preamble :
    let a := "x\n# %% A\n1\n".toList
    let b := "# %% B [md]\n\n2".toList
    let marker := "# %%".toList
    EndsLine a ∧ (∃ line ml, (ofText b).lines[0]? = some line ∧ ofLine? marker line = some ml) ∧
      ((ofText (a ++ b)).cellMarkers marker).map (·.offset) = [2, 11] ∧
      ∃ init last back, (ofText a).splitCells marker = .ok (init ++ [last]) ∧
        last.lines.stop = 4 ∧ (ofText b).splitCells marker = .ok back ∧
        (ofText (a ++ b)).splitCells marker =
          .ok (init ++ [last.endingAt 3] ++
            back.map (Interval.moved 3 (init ++ [last.endingAt 3]).length)) := by
  intro a b marker
  have ha : EndsLine a := Or.inr rfl
  have hline : ∃ line ml, (ofText b).lines[0]? = some line ∧ ofLine? marker line = some ml :=
    ⟨_, _, rfl, rfl⟩
  obtain ⟨hmarkers, hcells⟩ := splitCells_append ha b marker
  refine ⟨ha, hline, ?_, hcells hline⟩
  rw [hmarkers]
  rfl

end Document

end NotebookLayout
