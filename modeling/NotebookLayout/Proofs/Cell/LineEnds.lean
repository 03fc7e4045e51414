import NotebookLayout.Proofs.Cell.Append
import NotebookLayout.Proofs.Document.LineEnds

/-!
# Cells of texts with carriage returns at their line ends

How the lines of a text end has no say in its cells:

- `Boundary.all_map`: boundaries depend on no more of a marker than the boundary at it;
- `Document.cellMarkers_crlf`: the markers are the same, but for their offsets;
- `Document.splitCells_crlf`: so the cells are the same.
-/

namespace NotebookLayout

open Text

/-- Markers that have the same boundaries in another geometry, which ends at the same line, give the
same boundaries altogether. -/
theorem Boundary.all_map {α : Type} {m m' : LineMetrics} {markers : List (Marker α)}
    {f : Marker α → Marker α} (hend : m'.endLine = m.endLine)
    (hf : ∀ marker ∈ markers, ofMarker m' (f marker) = ofMarker m marker) (first last : α) :
    all m' (markers.map f) first last = all m markers first last := by
  have hlast : unmarked m'.endLine last = unmarked m.endLine last := by rw [hend]
  rw [all_map_of_line_eq (g := id) (fun _ => rfl) hf rfl hlast, List.map_id]

/-- The marker of a text with a carriage return in front of every line feed. -/
def Marker.crlf {α : Type} (t : Text) (marker : Marker α) : Marker α :=
  { marker with offset := crlfOffset t marker.offset }

namespace Document

open MarkerLine

/-- A line without its end says the same, as far on as the line feeds in front of it move it. -/
theorem ofLine?_crlf {t marker : Text} {line : Line} (h : line ∈ (ofText t).lines) :
    ofLine? marker (line.crlf t) =
      (ofLine? marker line).map fun ml => ml.moved (feedsBefore t ml.span.start) := by
  have hends : IsFullLine line.text ∨ '\n' ∉ line.text := by
    obtain ⟨i, hi⟩ := List.getElem?_of_mem h
    exact (isFullLine_of_line hi).imp_right And.right
  rw [ofLine?_of_content_eq marker (Line.content_crlf t hends) rfl]
  cases hml : ofLine? marker line with
  | none => rfl
  | some ml => rw [Option.map_some, Option.map_some, start_ofLine? hml]

/-- The other line ends put the same markers at other offsets. -/
theorem cellMarkers_crlf (t marker : Text) :
    (ofText t.crlf).cellMarkers marker =
      ((ofText t).cellMarkers marker).map (Marker.crlf t) := by
  have hfound : (ofText t.crlf).lines.filterMap (ofLine? marker) =
      ((ofText t).lines.filterMap (ofLine? marker)).map
        fun ml => ml.moved (feedsBefore t ml.span.start) := by
    rw [lines_crlf, List.filterMap_map, List.map_filterMap]
    exact List.filterMap_congr fun line h => ofLine?_crlf h
  refine List.ext_getElem? fun i => ?_
  simp only [cellMarkers, hfound, List.getElem?_mapIdx, List.getElem?_map, Option.map_map]
  congr 1
  funext ml
  exact toMarker_moved i 0 (feedsBefore t ml.span.start) ml

/-- A carriage return in front of every line feed leaves the cells of a text as they are. Of its
markers it changes nothing but the offset, which grows by the line feeds in front of it. -/
theorem splitCells_crlf (t marker : Text) :
    (ofText t.crlf).cellMarkers marker = ((ofText t).cellMarkers marker).map (fun m =>
        { m with offset := m.offset + feedsBefore t m.offset }) ∧
      ∃ ivs, (ofText t).splitCells marker = .ok ivs ∧
        (ofText t.crlf).splitCells marker = .ok ivs := by
  have hmarkers := cellMarkers_crlf t marker
  refine ⟨hmarkers, _, (ofText t).splitCells_eq_ok marker, ?_⟩
  have hend : (ofText t.crlf).metrics.endLine = (ofText t).metrics.endLine := by
    rw [endLine_ofText, endLine_ofText, count_crlf]
  have hboundary : ∀ m ∈ (ofText t).cellMarkers marker,
      Boundary.ofMarker (ofText t.crlf).metrics (m.crlf t) =
        Boundary.ofMarker (ofText t).metrics m := by
    intro m hm
    obtain ⟨a, b, rfl, hoffset⟩ := exists_append_of_mem_cellMarkers hm
    rw [Boundary.ofMarker, Boundary.ofMarker, Marker.crlf, hoffset, lineOf_crlfOffset]
  rw [splitCells_eq_ok, hmarkers, Boundary.all_map hend hboundary]

end Document

end NotebookLayout
