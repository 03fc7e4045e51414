import NotebookLayout.Proofs.Partition.Order

/-!
# Markers and their intervals

A split hands every marker on to an interval of its own, whatever the geometry:

- `Interval.getElem?_filter_marked`: the intervals that begin with a marker are those of the
  markers, in their order, each with the marker's kind and payload and from its line to that of the
  next one;
- `Interval.exists_unmarked_iff`: there is an interval without a marker just if the first marker, if
  there is one, is not on line 0;
- `Interval.between_concat_congr`: the payload of the boundary at the end is in no interval;
- `Interval.ofMarkers_mapData`: payloads are handed on as they are;
- `Interval.ofMarkers_marked`: all this of the split at ordered markers.
-/

namespace NotebookLayout

variable {α β : Type}

/-! ## Payloads -/

/-- The marker with another payload, made of its own. -/
def Marker.mapData (f : α → β) (marker : Marker α) : Marker β :=
  { marker with data := f marker.data }

/-- The boundary with another payload, made of its own. -/
def Boundary.mapData (f : α → β) (boundary : Boundary α) : Boundary β :=
  { boundary with data := f boundary.data }

/-- The interval with another payload, made of its own. -/
def Interval.mapData (f : α → β) (iv : Interval α) : Interval β := { iv with data := f iv.data }

/-- What markers carry does not matter to their order. -/
theorem Marker.checkOrder_mapData (f : α → β) (index : Nat) (markers : List (Marker α)) :
    checkOrder index (markers.map (mapData f)) = checkOrder index markers := by
  induction markers generalizing index with
  | nil => rfl
  | cons a rest ih =>
    cases rest with
    | nil => rfl
    | cons b rest =>
      -- The check compares offsets, and they are kept.
      have ih := ih (index + 1)
      rw [List.map_cons] at ih ⊢
      rw [List.map_cons, checkOrder, checkOrder, ih]
      rfl

/-- Boundaries carry what their markers do. -/
theorem Boundary.all_mapData (f : α → β) (m : LineMetrics) (markers : List (Marker α))
    (first last : α) :
    all m (markers.map (Marker.mapData f)) (f first) (f last) =
      (all m markers first last).map (mapData f) :=
  all_map_of_line_eq (fun _ => rfl) (fun _ _ => rfl) rfl rfl

namespace Interval

/-- Intervals carry what the boundaries do that they start at. -/
theorem between_mapData (f : α → β) (ordinal : Nat) (bs : List (Boundary α)) :
    between ordinal (bs.map (Boundary.mapData f)) = (between ordinal bs).map (mapData f) :=
  between_map 0 (fun _ _ _ => rfl) ordinal bs

/-- Payloads have no say in the split, nor in its error. -/
theorem ofMarkers_mapData (f : α → β) (m : LineMetrics) (markers : List (Marker α))
    (first last : α) :
    ofMarkers m (markers.map (Marker.mapData f)) (f first) (f last) =
      (ofMarkers m markers first last).map (List.map (mapData f)) := by
  rw [ofMarkers_eq_map, ofMarkers_eq_map, Marker.checkOrder_mapData, Boundary.all_mapData,
    between_mapData]
  cases Marker.checkOrder 0 markers <;> rfl

/-- Of the boundary at the end, only the line is looked at. -/
theorem between_concat_congr (ordinal : Nat) (bs : List (Boundary α)) {y z : Boundary α}
    (h : y.line = z.line) : between ordinal (bs ++ [y]) = between ordinal (bs ++ [z]) := by
  induction bs generalizing ordinal with
  | nil => rfl
  | cons a bs ih =>
    have ih := ih (ordinal + 1)
    cases bs with
    | nil =>
      -- The interval of `a` is the only one that reaches to the end.
      rw [List.singleton_append, List.singleton_append, between, between, h]
      rfl
    | cons b bs => exact congrArg (_ :: ·) ih

/-- Intervals are numbered from zero on. -/
theorem map_ordinal_between (bs : List (Boundary α)) :
    (between 0 bs).map (·.ordinal) = List.range (between 0 bs).length := by
  refine List.ext_getElem (by simp) fun i h _ => ?_
  rw [List.length_map] at h
  obtain ⟨a, b, -, -, heq⟩ := getElem?_between_eq_some_iff.1 (List.getElem?_eq_getElem h)
  rw [List.getElem_map, heq, List.getElem_range, Nat.zero_add]

end Interval

/-! ## Intervals with and without a marker -/

/-- A boundary without a marker comes first unless the first marker is on the first line. -/
theorem Boundary.length_head_eq_one_iff (m : LineMetrics) (first : α) {markers : List (Marker α)} :
    (head m first markers).length = 1 ↔
      ∀ marker, markers.head? = some marker → m.lineOf marker.offset ≠ 0 := by
  cases markers with
  | nil => simp [head]
  | cons marker rest =>
    rw [head]
    split
    next h => simp [h]
    next h => simp [h]

/-- Boundary `k` of those behind the one that may have been put in front. -/
theorem Boundary.getElem?_all_add {m : LineMetrics} {markers : List (Marker α)} {first last : α}
    {k : Nat} {b : Boundary α} :
    (all m markers first last)[(head m first markers).length + k]? = some b ↔
      (∃ marker, markers[k]? = some marker ∧ b = ofMarker m marker) ∨
      k = markers.length ∧ b = unmarked m.endLine last := by
  rw [getElem?_all_eq_some_iff (Nat.le_add_right _ k), Nat.add_sub_cancel_left]

namespace Interval

section Split

variable {m : LineMetrics} {markers : List (Marker α)} {first last : α}

/-- The intervals with a marker are those behind the one that may have been put in front. -/
theorem marked_iff {i : Nat} {iv : Interval α}
    (h : (between 0 (Boundary.all m markers first last))[i]? = some iv) :
    iv.marked = true ↔ (Boundary.head m first markers).length ≤ i := by
  rcases start_cases h with ⟨rfl, hhead, -, -, hmarked, -⟩ | ⟨marker, hge, -, -, -, hmarked, -⟩
  · simp [hmarked, hhead]
  · simp [hmarked, hge]

/-- The marked intervals are all but the one in front of the first marker. -/
theorem filter_marked :
    (between 0 (Boundary.all m markers first last)).filter (·.marked) =
      (between 0 (Boundary.all m markers first last)).drop
        (Boundary.head m first markers).length := by
  generalize hivs : between 0 (Boundary.all m markers first last) = ivs
  generalize hn : (Boundary.head m first markers).length = n
  have hmarked : ∀ {i : Nat} {iv : Interval α}, ivs[i]? = some iv → (iv.marked = true ↔ n ≤ i) := by
    rw [← hivs, ← hn]
    exact marked_iff
  -- The split falls into the intervals in front of the first marker and those behind it.
  have hfront : (ivs.take n).filter (·.marked) = [] := by
    refine List.filter_eq_nil_iff.2 fun iv hiv => ?_
    obtain ⟨i, hi, rfl⟩ := List.mem_take_iff_getElem.1 hiv
    rw [hmarked (List.getElem?_eq_getElem _)]
    omega
  have hrest : (ivs.drop n).filter (·.marked) = ivs.drop n := by
    refine List.filter_eq_self.2 fun iv hiv => ?_
    obtain ⟨i, hi, rfl⟩ := List.mem_drop_iff_getElem.1 hiv
    exact (hmarked (List.getElem?_eq_getElem _)).2 (Nat.le_add_right n i)
  calc ivs.filter (·.marked)
      = (ivs.take n ++ ivs.drop n).filter (·.marked) := by rw [List.take_append_drop]
    _ = ivs.drop n := by rw [List.filter_append, hfront, hrest, List.nil_append]

/-- Marker `k` begins interval `k` of those with a marker, which ends at the line of the next
marker, or at the end of the document if there is none. -/
theorem getElem?_filter_marked (k : Nat) :
    ((between 0 (Boundary.all m markers first last)).filter (·.marked))[k]? =
      markers[k]?.map fun marker =>
        { ordinal := (Boundary.head m first markers).length + k
          kind := marker.kind
          lines := ⟨m.lineOf marker.offset,
            markers[k + 1]?.elim m.endLine fun next => m.lineOf next.offset⟩
          marked := true
          data := marker.data } := by
  rw [filter_marked, List.getElem?_drop]
  rcases Nat.lt_or_ge k markers.length with hk | hk
  · obtain ⟨marker, hmarker⟩ : ∃ marker, markers[k]? = some marker :=
      ⟨_, List.getElem?_eq_getElem hk⟩
    have hstart : (Boundary.all m markers first last)[(Boundary.head m first markers).length + k]? =
        some (Boundary.ofMarker m marker) :=
      Boundary.getElem?_all_add.2 (Or.inl ⟨marker, hmarker, rfl⟩)
    rw [hmarker, Option.map_some, getElem?_between_eq_some_iff, Nat.zero_add]
    cases hnext : markers[k + 1]? with
    | some next =>
      exact ⟨_, _, hstart, Boundary.getElem?_all_add.2 (Or.inl ⟨next, hnext, rfl⟩), rfl⟩
    | none =>
      -- The last marker's interval reaches to the boundary that closes the list.
      have hend : k + 1 = markers.length :=
        Nat.le_antisymm hk (List.getElem?_eq_none_iff.1 hnext)
      exact ⟨_, _, hstart, Boundary.getElem?_all_add.2 (Or.inr ⟨hend, rfl⟩), rfl⟩
  · rw [List.getElem?_eq_none hk, Option.map_none, List.getElem?_eq_none_iff, length_between,
      Boundary.length_all]
    omega

/-- There is one of them for each marker. -/
theorem length_filter_marked :
    ((between 0 (Boundary.all m markers first last)).filter (·.marked)).length =
      markers.length := by
  rw [filter_marked, List.length_drop, length_between, Boundary.length_all, Nat.add_sub_cancel,
    Nat.add_sub_cancel_left]

/-- An interval without a marker stands in front if no marker is on the first line. -/
theorem exists_unmarked_iff :
    (∃ iv ∈ between 0 (Boundary.all m markers first last), iv.marked = false) ↔
      ∀ marker, markers.head? = some marker → m.lineOf marker.offset ≠ 0 := by
  rw [← Boundary.length_head_eq_one_iff m first]
  constructor
  · rintro ⟨iv, hmem, hunmarked⟩
    obtain ⟨i, hi⟩ := List.getElem?_of_mem hmem
    rcases start_cases hi with ⟨-, hhead, -⟩ | ⟨-, -, -, -, -, hmarked, -⟩
    · exact hhead
    · rw [hunmarked] at hmarked
      exact absurd hmarked Bool.false_ne_true
  · intro hhead
    -- The boundary put in front begins the first interval.
    have hlt : 0 < (between 0 (Boundary.all m markers first last)).length := by
      rw [length_between, Boundary.length_all, hhead]
      omega
    have hmarked := marked_iff (List.getElem?_eq_getElem hlt)
    rw [hhead] at hmarked
    exact ⟨_, List.getElem_mem hlt, Bool.eq_false_iff.2 fun h => absurd (hmarked.1 h) (by omega)⟩

end Split

/-- The split at ordered markers keeps every marker: they begin the intervals with a marker, one
each and in their order. -/
theorem ofMarkers_marked (m : LineMetrics) {markers : List (Marker α)}
    (h : markers.Pairwise (·.offset ≤ ·.offset)) (first last : α) :
    ∃ ivs : List (Interval α), ofMarkers m markers first last = .ok ivs ∧
      -- Marker `k` begins interval `k` of those with a marker, and hands on kind and payload.
      (ivs.filter (·.marked)).length = markers.length ∧
      (∀ (k : Nat) (marker : Marker α), markers[k]? = some marker →
        ∃ iv, (ivs.filter (·.marked))[k]? = some iv ∧ iv.kind = marker.kind ∧
          iv.data = marker.data ∧ iv.lines.start = m.lineOf marker.offset ∧
          iv.lines.stop = markers[k + 1]?.elim m.endLine fun next => m.lineOf next.offset) ∧
      -- An interval without a marker is put in front if the first marker is not on line 0.
      ((∃ iv ∈ ivs, iv.marked = false) ↔
        ∀ marker, markers.head? = some marker → m.lineOf marker.offset ≠ 0) ∧
      (∀ (i : Nat) (iv : Interval α), ivs[i]? = some iv → iv.marked = false →
        i = 0 ∧ iv.kind = .raw ∧ iv.lines.start = 0 ∧ iv.data = first) ∧
      -- The payload of the boundary at the end has no part in the split.
      (∀ other, ofMarkers m markers first other = .ok ivs) ∧
      (∀ iv ∈ ivs, iv.data = first ∨ ∃ marker ∈ markers, iv.data = marker.data) ∧
      ivs.map (·.ordinal) = List.range ivs.length ∧
      ∀ (β : Type) (f : α → β),
        ofMarkers m (markers.map (Marker.mapData f)) (f first) (f last) =
          .ok (ivs.map (mapData f)) := by
  have hok := ofMarkers_eq_ok (m := m) h first
  refine ⟨_, hok last, length_filter_marked, ?markers, exists_unmarked_iff, ?front, ?last, ?data,
    map_ordinal_between _, ?map⟩
  case markers =>
    intro k marker hk
    rw [getElem?_filter_marked, hk]
    exact ⟨_, rfl, rfl, rfl, rfl, rfl⟩
  case front =>
    intro i iv hi hunmarked
    rcases start_cases hi with ⟨hzero, -, hstart, hkind, -, hdata⟩ | ⟨-, -, -, -, -, hmarked, -⟩
    · exact ⟨hzero, hkind, hstart, hdata⟩
    · rw [hunmarked] at hmarked
      exact absurd hmarked Bool.false_ne_true
  case last =>
    intro other
    rw [hok other]
    exact congrArg Except.ok (between_concat_congr 0 _ rfl)
  case data =>
    intro iv hiv
    obtain ⟨i, hi⟩ := List.getElem?_of_mem hiv
    rcases start_cases hi with ⟨-, -, -, -, -, hdata⟩ | ⟨marker, -, hmarker, -, -, -, hdata⟩
    · exact Or.inl hdata
    · exact Or.inr ⟨marker, List.mem_of_getElem? hmarker, hdata⟩
  case map =>
    intro β f
    rw [ofMarkers_mapData, hok last]
    rfl

/-- Three lines of four bytes, with two markers on the second line and one past the end. -/
theorem ofMarkers_marked_shared_line :
    let m := LineMetrics.grid 3 4 (by decide)
    let markers : List (Marker Nat) :=
      [⟨0, .code, 5, 1, 10⟩, ⟨1, .markdown, 6, 1, 11⟩, ⟨2, .code, 40, 1, 12⟩]
    markers.Pairwise (·.offset ≤ ·.offset) ∧
      ∃ ivs : List (Interval Nat), ofMarkers m markers 8 9 = .ok ivs ∧
        (∃ iv, (ivs.filter (·.marked))[1]? = some iv ∧ iv.kind = .markdown ∧ iv.data = 11 ∧
          iv.lines.start = 1 ∧ iv.lines.stop = 2) ∧
        (∃ iv ∈ ivs, iv.marked = false) ∧
        ofMarkers m (markers.map (Marker.mapData (· + 1))) 9 10 =
          .ok (ivs.map (mapData (· + 1))) := by
  intro m markers
  have hsorted : markers.Pairwise (·.offset ≤ ·.offset) := by decide
  obtain ⟨ivs, hok, -, hmarkers, hfront, -, -, -, -, hmap⟩ := ofMarkers_marked m hsorted 8 9
  refine ⟨hsorted, ivs, hok, hmarkers 1 _ rfl, hfront.2 ?_, hmap Nat (· + 1)⟩
  rintro marker hhead
  obtain rfl := Option.some.inj hhead
  decide

end Interval

end NotebookLayout
