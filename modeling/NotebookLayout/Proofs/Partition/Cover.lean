import Mathlib.Algebra.GroupWithZero.Nat
import Mathlib.Data.List.Basic
import NotebookLayout.Partition.Check
import NotebookLayout.Partition.Split
import NotebookLayout.Proofs.Document.Lines

/-!
# Splits cover the document

Markers in the order of their offsets split the lines of a document without gap or overlap.

- `Tiles`: intervals that go from line to line, each starting where the one before it stops;
- `Tiles.countP_contains` and `Tiles.sum_count`: such intervals hold every line once;
- `partitionFault?_eq_none_iff`: the check of a split accepts just the numbered tilings;
- `ofMarkers_covers`: the split at ordered markers is one, and its empty intervals are those whose
  next marker is on their line.
-/

namespace NotebookLayout

variable {α β : Type}

/-- Later offsets are on later lines or the same one, and no offset is on a line past the end. -/
structure LineMetrics.Lawful (m : LineMetrics) : Prop where
  lineOf_mono : Monotone m.lineOf
  lineOf_lt : ∀ offset, m.lineOf offset < m.endLine

/-- The line geometry of a text is lawful. -/
theorem Document.lawful_metrics (doc : Document) : doc.metrics.Lawful := by
  rw [doc.eq_ofText]
  refine ⟨LineIndex.lineOf_mono doc.text, fun offset => ?_⟩
  have hle := LineIndex.lineOf_le_count doc.text offset
  change (LineIndex.ofText doc.text).lineOf offset <
    max (LineIndex.ofText doc.text).lineCount 1
  rw [LineIndex.lineCount_ofText]
  split
  next h =>
    rw [h] at hle ⊢
    simpa using hle
  next => omega

/-- So is that of equally long lines. -/
theorem LineMetrics.lawful_grid (count width : Nat) (hwidth : 0 < width) :
    (grid count width hwidth).Lawful := by
  constructor
  case lineOf_mono =>
    intro a b hab
    have := Nat.div_le_div_right (c := width) hab
    simp only [grid]
    omega
  case lineOf_lt =>
    intro offset
    simp only [grid, endLine]
    omega

namespace Interval

/-! ## Tilings -/

/-- The intervals lead from line `start` to line `stop`: each starts where the one before it stops,
and none runs backwards. -/
def Tiles (start stop : Nat) : List (Interval α) → Prop
  | [] => start = stop
  | iv :: rest => iv.lines.start = start ∧ start ≤ iv.lines.stop ∧ Tiles iv.lines.stop stop rest

/-- A tiling leads forward. -/
theorem Tiles.le {start stop : Nat} {ivs : List (Interval α)} (h : Tiles start stop ivs) :
    start ≤ stop := by
  induction ivs generalizing start with
  | nil => exact Nat.le_of_eq h
  | cons iv rest ih =>
    obtain ⟨-, hle, hrest⟩ := h
    exact Nat.le_trans hle (ih hrest)

/-- None of its intervals runs backwards. -/
theorem Tiles.forward {start stop : Nat} {ivs : List (Interval α)} (h : Tiles start stop ivs) :
    ∀ iv ∈ ivs, iv.lines.start ≤ iv.lines.stop := by
  induction ivs generalizing start with
  | nil => simp
  | cons iv rest ih =>
    obtain ⟨rfl, hle, hrest⟩ := h
    exact List.forall_mem_cons.2 ⟨hle, ih hrest⟩

/-- Every line between the ends is in one interval, and any other line in none. -/
theorem Tiles.countP_contains {start stop : Nat} {ivs : List (Interval α)}
    (h : Tiles start stop ivs) (line : Nat) :
    ivs.countP (·.lines.contains line) = if start ≤ line ∧ line < stop then 1 else 0 := by
  induction ivs generalizing start with
  | nil =>
    have heq : start = stop := h
    rw [List.countP_nil, if_neg (by omega)]
  | cons iv rest ih =>
    obtain ⟨hstart, hle, hrest⟩ := h
    have hstop := hrest.le
    rw [List.countP_cons, ih hrest]
    by_cases hin : iv.lines.contains line = true
    · have := LineRange.contains_iff.1 hin
      rw [if_pos hin, if_neg (by omega), if_pos (by omega)]
    · have hout : ¬(iv.lines.start ≤ line ∧ line < iv.lines.stop) :=
        fun hc => hin (LineRange.contains_iff.2 hc)
      rw [if_neg hin, Nat.add_zero]
      -- A line that the first interval does not hold lies in front of it or after it.
      split
      next => rw [if_pos (by omega)]
      next => rw [if_neg (by omega)]

/-- Its intervals have all lines from start to stop together. -/
theorem Tiles.sum_count {start stop : Nat} {ivs : List (Interval α)} (h : Tiles start stop ivs) :
    (ivs.map (·.lines.count)).sum = stop - start := by
  induction ivs generalizing start with
  | nil =>
    rw [show start = stop from h]
    simp
  | cons iv rest ih =>
    obtain ⟨hstart, hle, hrest⟩ := h
    have hstop := hrest.le
    rw [List.map_cons, List.sum_cons, ih hrest, LineRange.count]
    omega

/-! ## The check of a split -/

/-- An interval has no fault of its own if it is numbered rightly, runs forward, and has a marker
unless it is the first one. -/
theorem fault?_eq_none_iff {index : Nat} {iv : Interval α} :
    iv.fault? index = none ↔
      iv.ordinal = index ∧ iv.lines.start ≤ iv.lines.stop ∧ (index ≠ 0 → iv.marked = true) := by
  unfold fault?
  constructor
  · intro h
    -- The check asks for number, direction and marker in turn, and passes if it fails at none.
    split at h
    next => simp at h
    next hord =>
      split at h
      next => simp at h
      next hback =>
        split at h
        next => simp at h
        next hmark =>
          refine ⟨not_not.1 hord, Nat.le_of_not_lt hback, fun hne => ?_⟩
          simpa using fun hf => hmark ⟨hne, hf⟩
  · rintro ⟨hord, hle, hmark⟩
    rw [if_neg (not_not_intro hord), if_neg (Nat.not_lt_of_le hle), if_neg]
    rintro ⟨hne, hf⟩
    rw [hmark hne] at hf
    exact absurd hf (by simp)

/-- There is no such fault if no interval has one at its position. -/
theorem ownFault?_eq_none_iff {index : Nat} {ivs : List (Interval α)} :
    ownFault? index ivs = none ↔
      ∀ (i : Nat) (iv : Interval α), ivs[i]? = some iv → iv.fault? (index + i) = none := by
  induction ivs generalizing index with
  | nil => simp [ownFault?]
  | cons iv rest ih =>
    rw [ownFault?, Option.or_eq_none_iff, ih]
    -- A position in the rest is one less than in the whole list, and numbers start one later.
    constructor
    · rintro ⟨hfirst, hrest⟩ i iv' hi
      cases i with
      | zero =>
        obtain rfl : iv = iv' := by simpa using hi
        exact hfirst
      | succ i =>
        rw [List.getElem?_cons_succ] at hi
        have := hrest i iv' hi
        rwa [Nat.add_assoc, Nat.add_comm 1] at this
    · intro h
      refine ⟨h 0 iv rfl, fun i iv' hi => ?_⟩
      have := h (i + 1) iv' hi
      rwa [Nat.add_assoc, Nat.add_comm 1]

/-- The same, told of all intervals from the first one on. -/
theorem ownFault?_zero_eq_none_iff {ivs : List (Interval α)} :
    ownFault? 0 ivs = none ↔
      (∀ iv ∈ ivs, iv.lines.start ≤ iv.lines.stop) ∧
        ∀ (i : Nat) (iv : Interval α), ivs[i]? = some iv →
          iv.ordinal = i ∧ (i ≠ 0 → iv.marked = true) := by
  simp only [ownFault?_eq_none_iff, Nat.zero_add, fault?_eq_none_iff]
  constructor
  · intro h
    refine ⟨fun iv hmem => ?_, fun i iv hi => ⟨(h i iv hi).1, (h i iv hi).2.2⟩⟩
    obtain ⟨i, hi⟩ := List.getElem?_of_mem hmem
    exact (h i iv hi).2.1
  · rintro ⟨hforward, h⟩ i iv hi
    exact ⟨(h i iv hi).1, hforward iv (List.mem_of_getElem? hi), (h i iv hi).2⟩

/-- There is no fault between intervals if each starts where the one in front of it stops. -/
theorem seamFault?_eq_none_iff {ivs : List (Interval α)} :
    seamFault? ivs = none ↔ ivs.IsChain fun a b => a.lines.stop = b.lines.start := by
  induction ivs with
  | nil => simp [seamFault?]
  | cons a rest ih =>
    cases rest with
    | nil => simp [seamFault?]
    | cons b rest =>
      rw [seamFault?, List.isChain_cons_cons]
      split
      next hne => simp [hne]
      next heq => rw [ih, and_iff_right (not_not.1 heq)]

/-- Intervals that meet, and none of which runs backwards, lead from the start of the first one to
the stop of the last one. -/
theorem tiles_iff {first : Interval α} {rest : List (Interval α)} {start stop : Nat} :
    Tiles start stop (first :: rest) ↔
      first.lines.start = start ∧
        (∀ z, (first :: rest).getLast? = some z → z.lines.stop = stop) ∧
        (∀ iv ∈ first :: rest, iv.lines.start ≤ iv.lines.stop) ∧
        (first :: rest).IsChain fun a b => a.lines.stop = b.lines.start := by
  -- The start of the intervals after the first one is the stop of that one.
  induction rest generalizing first start with
  | nil =>
    simp only [Tiles, List.getLast?_singleton, Option.some.injEq, forall_eq', List.mem_singleton,
      forall_eq, List.IsChain.singleton, and_true]
    constructor
    · rintro ⟨rfl, hle, hstop⟩
      exact ⟨rfl, hstop, hle⟩
    · rintro ⟨rfl, hstop, hle⟩
      exact ⟨rfl, hle, hstop⟩
  | cons next rest ih =>
    rw [Tiles, ih, List.isChain_cons_cons, List.getLast?_cons_cons]
    constructor
    · rintro ⟨rfl, hle, hmeet, hlast, hforward, hchain⟩
      exact ⟨rfl, hlast, List.forall_mem_cons.2 ⟨hle, hforward⟩, hmeet.symm, hchain⟩
    · rintro ⟨rfl, hlast, hall, hmeet, hchain⟩
      obtain ⟨hle, hforward⟩ := List.forall_mem_cons.1 hall
      exact ⟨rfl, hle, hmeet.symm, hlast, hforward, hchain⟩

/-- The check passes just those tilings of the document's lines that are numbered from 0 and have no
interval without a marker after the first. -/
theorem partitionFault?_eq_none_iff {m : LineMetrics} {ivs : List (Interval α)} :
    partitionFault? m ivs = none ↔
      ivs ≠ [] ∧ Tiles 0 m.endLine ivs ∧
        ∀ (i : Nat) (iv : Interval α), ivs[i]? = some iv →
          iv.ordinal = i ∧ (i ≠ 0 → iv.marked = true) := by
  cases ivs with
  | nil => simp [partitionFault?]
  | cons first rest =>
    obtain ⟨z, hz⟩ : ∃ z, (first :: rest).getLast? = some z :=
      ⟨_, List.getLast?_eq_some_getLast (List.cons_ne_nil first rest)⟩
    have hlast : (∀ z', (first :: rest).getLast? = some z' → z'.lines.stop = m.endLine) ↔
        z.lines.stop = m.endLine := by
      rw [hz]
      simp
    simp only [partitionFault?, List.head?_cons, hz, tiles_iff, ne_eq, reduceCtorEq,
      not_false_eq_true, true_and]
    rw [← hz, hlast]
    by_cases hstart : first.lines.start = 0
    · by_cases hstop : z.lines.stop = m.endLine
      · -- With both ends right, what is left are the intervals by themselves and their seams.
        rw [if_neg (not_not_intro hstart), if_neg (not_not_intro hstop), Option.or_eq_none_iff,
          ownFault?_zero_eq_none_iff, seamFault?_eq_none_iff]
        constructor
        · rintro ⟨⟨hforward, hnumbered⟩, hchain⟩
          exact ⟨⟨hstart, hstop, hforward, hchain⟩, hnumbered⟩
        · rintro ⟨⟨-, -, hforward, hchain⟩, hnumbered⟩
          exact ⟨⟨hforward, hnumbered⟩, hchain⟩
      · simp [hstart, hstop]
    · simp [hstart]

end Interval

/-! ## Boundaries of ordered markers -/

/-- Markers in order pass the check. -/
theorem Marker.checkOrder_eq_ok {markers : List (Marker α)}
    (h : markers.Pairwise (·.offset ≤ ·.offset)) (index : Nat) :
    Marker.checkOrder index markers = .ok () := by
  fun_induction Marker.checkOrder index markers with
  | case1 index a b rest hlt =>
    have hle := (List.pairwise_cons.1 h).1 b List.mem_cons_self
    exact absurd hlt (Nat.not_lt_of_le hle)
  | case2 index a b rest hlt ih => exact ih (List.pairwise_cons.1 h).2
  | case3 => rfl

namespace Boundary

/-- The boundaries that ordered markers give, the one at the end included. -/
def all (m : LineMetrics) (markers : List (Marker α)) (first last : α) : List (Boundary α) :=
  head m first markers ++ markers.map (ofMarker m) ++ [unmarked m.endLine last]

/-- So they have boundaries. -/
theorem ofMarkers_eq_ok {m : LineMetrics} {markers : List (Marker α)}
    (h : markers.Pairwise (·.offset ≤ ·.offset)) (first last : α) :
    ofMarkers m markers first last = .ok (all m markers first last) := by
  rw [ofMarkers, Marker.checkOrder_eq_ok h]
  rfl

/-- A boundary comes first that has no marker, unless the first marker is on the first line. -/
theorem head_cases (m : LineMetrics) (first : α) (markers : List (Marker α)) :
    head m first markers = [unmarked 0 first] ∨
      head m first markers = [] ∧
        ∃ marker rest, markers = marker :: rest ∧ m.lineOf marker.offset = 0 := by
  cases markers with
  | nil => exact Or.inl rfl
  | cons marker rest =>
    rw [head]
    split
    next h => exact Or.inr ⟨rfl, marker, rest, rfl, h⟩
    next => exact Or.inl rfl

/-- There is no more than one such boundary. -/
theorem length_head_le (m : LineMetrics) (first : α) (markers : List (Marker α)) :
    (head m first markers).length ≤ 1 := by
  rcases head_cases m first markers with h | ⟨h, -⟩ <;> rw [h] <;> simp

/-- Each marker has a boundary, and so has the end. -/
theorem length_all (m : LineMetrics) (markers : List (Marker α)) (first last : α) :
    (all m markers first last).length = (head m first markers).length + markers.length + 1 := by
  simp [all, Nat.add_assoc]

/-- Mapped markers have the mapped boundaries, in any geometry in which the map keeps the lines. -/
theorem all_map_of_line_eq {m m' : LineMetrics} {markers : List (Marker α)} {first last : α}
    {first' last' : β} {f : Marker α → Marker β} {g : Boundary α → Boundary β}
    (hline : ∀ b, (g b).line = b.line)
    (hmarker : ∀ marker ∈ markers, ofMarker m' (f marker) = g (ofMarker m marker))
    (hfirst : unmarked 0 first' = g (unmarked 0 first))
    (hlast : unmarked m'.endLine last' = g (unmarked m.endLine last)) :
    all m' (markers.map f) first' last' = (all m markers first last).map g := by
  have hmarkers : (markers.map f).map (ofMarker m') = (markers.map (ofMarker m)).map g := by
    rw [List.map_map, List.map_map]
    exact List.map_congr_left hmarker
  have hhead : head m' first' (markers.map f) = (head m first markers).map g := by
    cases markers with
    | nil => exact congrArg ([·]) hfirst
    | cons marker rest =>
      have hlineOf : m'.lineOf (f marker).offset = m.lineOf marker.offset :=
        (congrArg (·.line) (hmarker marker List.mem_cons_self)).trans (hline _)
      rw [List.map_cons, head, head, hlineOf, hfirst]
      split <;> rfl
  rw [all, all, hmarkers, hhead, hlast, List.map_append, List.map_append]
  rfl

/-- The first boundary is at line 0, with or without a marker. -/
theorem line_first (m : LineMetrics) (markers : List (Marker α)) (first last : α) :
    ∃ b rest, all m markers first last = b :: rest ∧ b.line = 0 := by
  rcases head_cases m first markers with h | ⟨h, marker, rest, rfl, hline⟩
  · rw [all, h]
    exact ⟨unmarked 0 first, _, rfl, rfl⟩
  · rw [all, h]
    exact ⟨ofMarker m marker, _, rfl, hline⟩

/-- Past the boundary without a marker come those of the markers, and then the one at the end. -/
theorem getElem?_all_eq_some_iff {m : LineMetrics} {markers : List (Marker α)} {first last : α}
    {i : Nat} (hi : (head m first markers).length ≤ i) {b : Boundary α} :
    (all m markers first last)[i]? = some b ↔
      (∃ marker, markers[i - (head m first markers).length]? = some marker ∧
        b = ofMarker m marker) ∨
      i - (head m first markers).length = markers.length ∧ b = unmarked m.endLine last := by
  rw [all, List.append_assoc, List.getElem?_append_right hi]
  -- The place among the markers' boundaries: one of theirs, the closing one, or past the list.
  generalize i - (head m first markers).length = k
  rcases Nat.lt_trichotomy k markers.length with hk | rfl | hk
  · rw [List.getElem?_append_left (by simpa using hk), List.getElem?_map,
      Option.map_eq_some_iff]
    constructor
    · rintro ⟨marker, hmarker, rfl⟩
      exact Or.inl ⟨marker, hmarker, rfl⟩
    · rintro (⟨marker, hmarker, rfl⟩ | ⟨rfl, -⟩)
      · exact ⟨marker, hmarker, rfl⟩
      · exact absurd hk (Nat.lt_irrefl _)
  · simp [eq_comm]
  · have hnone : markers[k]? = none := List.getElem?_eq_none (Nat.le_of_lt hk)
    have hne : k ≠ markers.length := Nat.ne_of_gt hk
    have hpast : (markers.map (ofMarker m) ++ [unmarked m.endLine last])[k]? = none :=
      List.getElem?_eq_none (by simpa using Nat.succ_le_of_lt hk)
    rw [hpast, hnone]
    simp [hne]

/-- The boundaries come in the order of their lines. -/
theorem pairwise_line {m : LineMetrics} (hm : m.Lawful) {markers : List (Marker α)}
    (h : markers.Pairwise (·.offset ≤ ·.offset)) (first last : α) :
    (all m markers first last).Pairwise (·.line ≤ ·.line) := by
  have hmarkers : (markers.map (ofMarker m)).Pairwise (·.line ≤ ·.line) :=
    h.map _ fun a b hab => hm.lineOf_mono hab
  refine List.pairwise_append.2 ⟨List.pairwise_append.2 ⟨?_, hmarkers, ?_⟩, ?_, ?_⟩
  · rcases head_cases m first markers with hhead | ⟨hhead, -⟩ <;> rw [hhead] <;> simp
  · rcases head_cases m first markers with hhead | ⟨hhead, -⟩ <;> rw [hhead] <;> simp [unmarked]
  · exact List.pairwise_singleton _ _
  · -- The boundary at the end is behind that of every marker.
    intro b hb e he
    obtain rfl := List.mem_singleton.1 he
    rcases List.mem_append.1 hb with hb | hb
    · rcases head_cases m first markers with hhead | ⟨hhead, -⟩ <;> rw [hhead] at hb <;>
        simp_all [unmarked]
    · obtain ⟨marker, -, rfl⟩ := List.mem_map.1 hb
      exact Nat.le_of_lt (hm.lineOf_lt marker.offset)

end Boundary

namespace Interval

/-! ## Intervals between boundaries -/

/-- There is one interval less than boundaries. -/
theorem length_between (ordinal : Nat) (bs : List (Boundary α)) :
    (between ordinal bs).length = bs.length - 1 := by
  induction bs generalizing ordinal with
  | nil => rfl
  | cons a rest ih =>
    cases rest with
    | nil => rfl
    | cons b rest =>
      rw [between, List.length_cons, ih]
      rfl

/-- The interval at a position lies between the boundaries at it and after it. -/
theorem getElem?_between_eq_some_iff {ordinal i : Nat} {bs : List (Boundary α)} {iv : Interval α} :
    (between ordinal bs)[i]? = some iv ↔
      ∃ a b, bs[i]? = some a ∧ bs[i + 1]? = some b ∧
        iv = ⟨ordinal + i, a.kind, ⟨a.line, b.line⟩, a.marked, a.data⟩ := by
  induction bs generalizing ordinal i with
  | nil => simp [between]
  | cons a rest ih =>
    cases rest with
    | nil => simp [between]
    | cons b rest =>
      rw [between]
      -- Without the first boundary, the first interval is gone as well.
      cases i with
      | zero => simp [eq_comm]
      | succ i =>
        rw [List.getElem?_cons_succ, ih, Nat.add_assoc, Nat.add_comm 1 i]
        rfl

/-- If mapping two boundaries maps the interval between them, so it is with all the intervals. -/
theorem between_map {f : Boundary α → Boundary β} {g : Interval α → Interval β} (count : Nat)
    (h : ∀ ordinal a b, between (ordinal + count) [f a, f b] = (between ordinal [a, b]).map g)
    (ordinal : Nat) (bs : List (Boundary α)) :
    between (ordinal + count) (bs.map f) = (between ordinal bs).map g := by
  induction bs generalizing ordinal with
  | nil => rfl
  | cons a bs ih =>
    cases bs with
    | nil => rfl
    | cons b bs =>
      have ih := ih (ordinal + 1)
      rw [Nat.add_right_comm] at ih
      exact congrArg₂ (· ++ ·) (h ordinal a b) ih

section Split

variable {m : LineMetrics} {markers : List (Marker α)} {first last : α} {i : Nat} {iv : Interval α}
  (h : (between 0 (Boundary.all m markers first last))[i]? = some iv)

include h

/-- An interval of the split begins at a marker, which it takes kind and payload of, or it is the
first one and begins at line 0 without a marker. -/
theorem start_cases :
    (i = 0 ∧ (Boundary.head m first markers).length = 1 ∧ iv.lines.start = 0 ∧ iv.kind = .raw ∧
        iv.marked = false ∧ iv.data = first) ∨
      ∃ marker, (Boundary.head m first markers).length ≤ i ∧
        markers[i - (Boundary.head m first markers).length]? = some marker ∧
        iv.lines.start = m.lineOf marker.offset ∧ iv.kind = marker.kind ∧ iv.marked = true ∧
        iv.data = marker.data := by
  obtain ⟨a, b, ha, hb, rfl⟩ := getElem?_between_eq_some_iff.1 h
  rcases Nat.lt_or_ge i (Boundary.head m first markers).length with hlt | hge
  · rcases Boundary.head_cases m first markers with hhead | ⟨hhead, -⟩
    · rw [hhead] at hlt
      obtain rfl : i = 0 := by simpa using hlt
      rw [Boundary.all, hhead] at ha
      obtain rfl : Boundary.unmarked 0 first = a := by simpa using ha
      exact Or.inl ⟨rfl, by rw [hhead]; rfl, rfl, rfl, rfl, rfl⟩
    · rw [hhead] at hlt
      exact absurd hlt (Nat.not_lt_zero i)
  · rcases (Boundary.getElem?_all_eq_some_iff hge).1 ha with ⟨marker, hmarker, rfl⟩ | ⟨hend, -⟩
    · exact Or.inr ⟨marker, hge, hmarker, rfl, rfl, rfl, rfl⟩
    · -- No interval begins at the boundary that closes the list.
      have hlt : i + 1 < (Boundary.all m markers first last).length :=
        (List.getElem?_eq_some_iff.1 hb).1
      rw [Boundary.length_all] at hlt
      omega

/-- It stops at the next marker, or at the end if there is none. -/
theorem stop_cases :
    (∃ marker, markers[i + 1 - (Boundary.head m first markers).length]? = some marker ∧
        iv.lines.stop = m.lineOf marker.offset) ∨
      markers[i + 1 - (Boundary.head m first markers).length]? = none ∧
        iv.lines.stop = m.endLine := by
  obtain ⟨a, b, ha, hb, rfl⟩ := getElem?_between_eq_some_iff.1 h
  have hge : (Boundary.head m first markers).length ≤ i + 1 :=
    Nat.le_trans (Boundary.length_head_le m first markers) (Nat.le_add_left 1 i)
  rcases (Boundary.getElem?_all_eq_some_iff hge).1 hb with ⟨marker, hmarker, rfl⟩ | ⟨hend, rfl⟩
  · exact Or.inl ⟨marker, hmarker, rfl⟩
  · exact Or.inr ⟨List.getElem?_eq_none (Nat.le_of_eq hend.symm), rfl⟩

/-- Of a lawful geometry, an interval of the split is empty just if the next marker is on the line
that it begins at. -/
theorem isEmpty_iff (hm : m.Lawful) (hforward : iv.lines.start ≤ iv.lines.stop) :
    iv.lines.isEmpty = true ↔
      ∃ marker, markers[i + 1 - (Boundary.head m first markers).length]? = some marker ∧
        m.lineOf marker.offset = iv.lines.start := by
  have hstart : iv.lines.start < m.endLine := by
    rcases start_cases h with ⟨-, -, hstart, -⟩ | ⟨marker, -, -, hstart, -⟩
    · rw [hstart, LineMetrics.endLine]
      omega
    · rw [hstart]
      exact hm.lineOf_lt marker.offset
  rw [LineRange.isEmpty, decide_eq_true_iff]
  -- Without a next marker the interval goes on to the end, which is behind its start.
  rcases stop_cases h with ⟨marker, hmarker, hstop⟩ | ⟨hnone, hstop⟩
  · rw [hmarker]
    constructor
    · intro hle
      exact ⟨marker, rfl, hstop ▸ Nat.le_antisymm hle hforward⟩
    · rintro ⟨marker', heq, hline⟩
      obtain rfl := Option.some.inj heq
      exact Nat.le_of_eq (hstop.trans hline)
  · rw [hnone, hstop]
    constructor
    · intro hle
      exact absurd hstart (Nat.not_lt_of_le hle)
    · rintro ⟨marker, heq, -⟩
      simp at heq

/-- If no two markers are on one line, no interval is empty. -/
theorem isEmpty_eq_false (hm : m.Lawful)
    (hlines : markers.Pairwise fun a b => m.lineOf a.offset < m.lineOf b.offset)
    (hforward : iv.lines.start ≤ iv.lines.stop) : iv.lines.isEmpty = false := by
  refine Bool.eq_false_iff.2 fun hempty => ?_
  obtain ⟨next, hnext, hline⟩ := (isEmpty_iff h hm hforward).1 hempty
  rcases start_cases h with ⟨rfl, hhead, hstart, -⟩ | ⟨marker, hge, hmarker, hstart, -⟩
  · -- A marker on line 0 leaves no room for an interval in front of it.
    rw [hhead] at hnext
    cases markers with
    | nil => simp at hnext
    | cons marker rest =>
      obtain rfl : marker = next := by simpa using hnext
      rw [Boundary.head, if_pos (hline.trans hstart)] at hhead
      simp at hhead
  · rw [Nat.sub_add_comm hge] at hnext
    obtain ⟨hk, rfl⟩ := List.getElem?_eq_some_iff.1 hmarker
    obtain ⟨hk', rfl⟩ := List.getElem?_eq_some_iff.1 hnext
    have hlt := List.pairwise_iff_getElem.1 hlines _ _ hk hk' (Nat.lt_succ_self _)
    rw [hline, hstart] at hlt
    exact Nat.lt_irrefl _ hlt

end Split

/-- Every marker begins an interval of the split. -/
theorem exists_marked {m : LineMetrics} {markers : List (Marker α)} {first last : α} {k : Nat}
    {marker : Marker α} (h : markers[k]? = some marker) :
    ∃ iv ∈ between 0 (Boundary.all m markers first last),
      iv.marked = true ∧ iv.lines.start = m.lineOf marker.offset := by
  have hk : k < markers.length := (List.getElem?_eq_some_iff.1 h).1
  have hlt : (Boundary.head m first markers).length + k <
      (between 0 (Boundary.all m markers first last)).length := by
    rw [length_between, Boundary.length_all]
    omega
  refine ⟨_, List.getElem_mem hlt, ?_⟩
  -- The boundary of marker `k` comes after the one that may have been added.
  rcases start_cases (List.getElem?_eq_getElem hlt) with
    ⟨hzero, hhead, -⟩ | ⟨marker', -, hmarker, hstart, -, hmarked, -⟩
  · omega
  · rw [Nat.add_sub_cancel_left, h] at hmarker
    obtain rfl := Option.some.inj hmarker
    exact ⟨hmarked, hstart⟩

/-- Boundaries in order lead from the first to the last. -/
theorem tiles_between {a : Boundary α} {rest : List (Boundary α)}
    (h : (a :: rest).Pairwise (·.line ≤ ·.line)) (ordinal : Nat) {z : Boundary α}
    (hz : (a :: rest).getLast? = some z) :
    Tiles a.line z.line (between ordinal (a :: rest)) := by
  induction rest generalizing a ordinal with
  | nil =>
    obtain rfl : a = z := by simpa using hz
    rfl
  | cons b rest ih =>
    obtain ⟨hle, hrest⟩ := List.pairwise_cons.1 h
    refine ⟨rfl, hle b List.mem_cons_self, ih hrest (ordinal + 1) ?_⟩
    rwa [List.getLast?_cons_cons] at hz

/-- So they have boundaries. -/
theorem ofMarkers_eq_ok {m : LineMetrics} {markers : List (Marker α)}
    (h : markers.Pairwise (·.offset ≤ ·.offset)) (first last : α) :
    ofMarkers m markers first last = .ok (between 0 (Boundary.all m markers first last)) := by
  rw [ofMarkers, Boundary.ofMarkers_eq_ok h]
  rfl

/-- So the intervals lead through all lines. -/
theorem tiles_ofMarkers {m : LineMetrics} (hm : m.Lawful) {markers : List (Marker α)}
    (h : markers.Pairwise (·.offset ≤ ·.offset)) (first last : α) :
    Tiles 0 m.endLine (between 0 (Boundary.all m markers first last)) := by
  obtain ⟨a, rest, hall, ha⟩ := Boundary.line_first m markers first last
  have hsorted := Boundary.pairwise_line hm h first last
  have hz : (Boundary.all m markers first last).getLast? =
      some (Boundary.unmarked m.endLine last) := by
    rw [Boundary.all, List.getLast?_concat]
  rw [hall] at hsorted hz ⊢
  have := tiles_between hsorted 0 hz
  rwa [ha] at this

/-- Markers in the order of their offsets split the lines of every lawful geometry, which those of a
text and of equally long lines are: the split passes its check and holds each line once. -/
theorem ofMarkers_covers :
    (∀ t, (Document.ofText t).metrics.Lawful) ∧
    (∀ count width (hwidth : 0 < width), (LineMetrics.grid count width hwidth).Lawful) ∧
    ∀ m : LineMetrics, m.Lawful → ∀ markers : List (Marker α),
      markers.Pairwise (·.offset ≤ ·.offset) → ∀ first last : α,
      ∃ ivs, ofMarkers m markers first last = .ok ivs ∧
        partitionFault? m ivs = none ∧
        -- Every line is in one interval, and no line is counted twice.
        (∀ line < m.endLine, ivs.countP (·.lines.contains line) = 1) ∧
        (ivs.map (·.lines.count)).sum = m.endLine ∧
        -- An interval is empty just if the next marker is on its line. That marker is at the
        -- interval's own position if an interval without marker was added in front, and at the
        -- position after it otherwise.
        (∀ (i : Nat) (iv : Interval α), ivs[i]? = some iv → (iv.lines.isEmpty = true ↔
          ∃ marker, markers[i + 1 - (Boundary.head m first markers).length]? = some marker ∧
            m.lineOf marker.offset = iv.lines.start)) ∧
        ∃ z, ivs.getLast? = some z ∧ z.lines.isEmpty = false := by
  refine ⟨fun t => (Document.ofText t).lawful_metrics, LineMetrics.lawful_grid, ?_⟩
  intro m hm markers h first last
  have htiles := tiles_ofMarkers hm h first last
  have hlength : (between 0 (Boundary.all m markers first last)).length =
      (Boundary.head m first markers).length + markers.length := by
    rw [length_between, Boundary.length_all, Nat.add_sub_cancel]
  -- There is a line even in an empty document, so there is an interval.
  have hpos : 0 < m.endLine := Nat.lt_of_lt_of_le Nat.zero_lt_one (Nat.le_max_right _ _)
  have hne : between 0 (Boundary.all m markers first last) ≠ [] := by
    intro hnil
    rw [hnil] at htiles
    exact absurd htiles (Nat.ne_of_lt hpos)
  refine ⟨_, ofMarkers_eq_ok h first last, ?_, ?_, ?_, ?_, ?_⟩
  · refine partitionFault?_eq_none_iff.2 ⟨hne, htiles, fun i iv hi => ⟨?_, fun hi0 => ?_⟩⟩
    · obtain ⟨a, b, -, -, rfl⟩ := getElem?_between_eq_some_iff.1 hi
      exact Nat.zero_add i
    · rcases start_cases hi with ⟨rfl, -⟩ | ⟨marker, -, -, -, -, hmarked, -⟩
      · exact absurd rfl hi0
      · exact hmarked
  · intro line hline
    rw [htiles.countP_contains, if_pos ⟨Nat.zero_le line, hline⟩]
  · rw [htiles.sum_count, Nat.sub_zero]
  · intro i iv hi
    exact isEmpty_iff hi hm (htiles.forward iv (List.mem_of_getElem? hi))
  · obtain ⟨z, hz⟩ : ∃ z, (between 0 (Boundary.all m markers first last)).getLast? = some z :=
      ⟨_, List.getLast?_eq_some_getLast hne⟩
    refine ⟨z, hz, Bool.eq_false_iff.2 fun hempty => ?_⟩
    -- After the last interval there is no marker that could be on its line.
    have hforward := htiles.forward z (List.mem_of_getLast? hz)
    rw [List.getLast?_eq_getElem?, hlength] at hz
    obtain ⟨marker, hmarker, -⟩ := (isEmpty_iff hz hm hforward).1 hempty
    have hlt := (List.getElem?_eq_some_iff.1 hmarker).1
    omega

/-- Three lines of four bytes, with two markers on the second line and one past the end. -/
theorem ofMarkers_covers_shared_line :
    let m := LineMetrics.grid 3 4 (by decide)
    let markers : List (Marker Nat) :=
      [⟨0, .code, 5, 1, 10⟩, ⟨1, .markdown, 6, 1, 11⟩, ⟨2, .code, 40, 1, 12⟩]
    m.Lawful ∧ markers.Pairwise (·.offset ≤ ·.offset) ∧
      ∃ ivs, ofMarkers m markers 8 9 = .ok ivs ∧ partitionFault? m ivs = none ∧
        ivs.countP (·.lines.contains 2) = 1 ∧ (ivs.map (·.lines.count)).sum = 3 := by
  intro m markers
  have hm : m.Lawful := LineMetrics.lawful_grid 3 4 (by decide)
  have hsorted : markers.Pairwise (·.offset ≤ ·.offset) := by decide
  obtain ⟨ivs, hok, hcheck, hcover, hsum, -⟩ := ofMarkers_covers.2.2 m hm markers hsorted 8 9
  exact ⟨hm, hsorted, ivs, hok, hcheck, hcover 2 (by decide), hsum⟩

end Interval

end NotebookLayout
