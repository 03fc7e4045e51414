import NotebookLayout.Bisect
import NotebookLayout.Document.Metrics
import NotebookLayout.Partition.Basic

/-!
# Splitting at markers

Markers become boundaries at their lines, with a further boundary at line 0 if no marker is there
and one at the end; each interval reaches from one boundary to the next. Markers have to come in
the order of their offsets, and several may share a line.
-/

namespace NotebookLayout

variable {α : Type}

/-! ## Boundaries -/

/-- Why markers give no split. -/
inductive PartitionError where
  /-- The marker at position `index` lies at `offset`, before the one in front of it. -/
  | unorderedMarkers (index offset previous : Nat)
  deriving DecidableEq

/-- The text of the error. -/
def PartitionError.message : PartitionError → String
  | .unorderedMarkers index offset previous =>
    s!"marker {index} at offset {offset} precedes the previous marker at offset {previous}"

/-- Refuses markers of which one lies before the one in front of it, naming the first such; `index`
is the position of the first marker given. -/
def Marker.checkOrder (index : Nat) : List (Marker α) → Except PartitionError Unit
  | a :: b :: rest =>
    if b.offset < a.offset then .error (.unorderedMarkers (index + 1) b.offset a.offset)
    else checkOrder (index + 1) (b :: rest)
  | _ => .ok ()

namespace Boundary

/-- The boundary at a marker. -/
def ofMarker (m : LineMetrics) (marker : Marker α) : Boundary α where
  line := m.lineOf marker.offset
  kind := marker.kind
  marked := true
  data := marker.data

/-- A boundary without a marker. -/
def unmarked (line : Nat) (data : α) : Boundary α where
  line := line
  kind := .raw
  marked := false
  data := data

/-- The boundary at line 0 that is needed if no marker is there. -/
def head (m : LineMetrics) (first : α) : List (Marker α) → List (Boundary α)
  | [] => [unmarked 0 first]
  | marker :: _ => if m.lineOf marker.offset = 0 then [] else [unmarked 0 first]

/-- The boundaries that ordered markers give: `first` goes with a boundary at line 0 without a
marker, `last` with the boundary that closes the list. -/
def ofMarkers (m : LineMetrics) (markers : List (Marker α)) (first last : α) :
    Except PartitionError (List (Boundary α)) := do
  Marker.checkOrder 0 markers
  -- Nothing is sorted: a geometry that keeps order gives the boundaries in order of their lines.
  return head m first markers ++ markers.map (ofMarker m) ++ [unmarked m.endLine last]

end Boundary

/-! ## Intervals -/

namespace Interval

/-- The intervals between adjacent boundaries, numbered from `ordinal`. Each takes kind and payload
of the boundary that it begins at. -/
def between (ordinal : Nat) : List (Boundary α) → List (Interval α)
  | a :: b :: rest =>
    { ordinal, kind := a.kind, lines := ⟨a.line, b.line⟩, marked := a.marked, data := a.data } ::
      between (ordinal + 1) (b :: rest)
  | _ => []

/-- The split of a document at markers. -/
def ofMarkers (m : LineMetrics) (markers : List (Marker α)) (first last : α) :
    Except PartitionError (List (Interval α)) :=
  (Boundary.ofMarkers m markers first last).map (between 0)

/-- The interval at position `i` ends at `line` or before it. -/
def endsBy (intervals : Array (Interval α)) (line i : Nat) : Bool :=
  intervals[i]?.any (·.lines.stop ≤ line)

/-- The first interval that contains a line, found by halving; the intervals' ends must not
decrease. -/
def find? (intervals : Array (Interval α)) (line : Nat) : Option (Interval α) :=
  intervals[bisect (endsBy intervals line) intervals.size]?.filter (·.lines.contains line)

end Interval

end NotebookLayout
