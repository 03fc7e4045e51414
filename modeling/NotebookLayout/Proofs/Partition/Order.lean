import Mathlib.Order.Bounds.Basic
import NotebookLayout.Proofs.Partition.Cover
import NotebookLayout.Proofs.Result

/-!
# Markers out of order

Markers are refused if one of them lies before the one in front of it, and then the first such
marker is named:

- `Marker.DropsAt`: the positions at which markers are out of order;
- `Marker.checkOrder_eq_ok_iff` and `Marker.checkOrder_eq_error_iff`: the check passes just those
  markers that never drop, and otherwise finds the first position at which they do;
- `ofMarkers_eq_error_iff`: so it is with the boundaries and with the intervals of markers.
-/

namespace NotebookLayout

variable {α : Type}

namespace Marker

/-- The marker at the position lies before the one in front of it. -/
def DropsAt (markers : List (Marker α)) : Nat → Prop
  | 0 => False
  | i + 1 => ∃ a b, markers[i]? = some a ∧ markers[i + 1]? = some b ∧ b.offset < a.offset

/-- Without its first marker, a list drops where it did, one position earlier. -/
theorem dropsAt_cons_cons {a b : Marker α} {rest : List (Marker α)} {i : Nat} :
    DropsAt (a :: b :: rest) (i + 1) ↔ i = 0 ∧ b.offset < a.offset ∨ DropsAt (b :: rest) i := by
  cases i with
  | zero => simp [DropsAt]
  | succ i => simp [DropsAt]

/-- Markers that never drop are in order all together, not only each with the next one. -/
theorem pairwise_iff_not_dropsAt {markers : List (Marker α)} :
    markers.Pairwise (·.offset ≤ ·.offset) ↔ ∀ i, ¬DropsAt markers i := by
  have htrans : Trans (fun a b : Marker α => a.offset ≤ b.offset)
      (fun a b : Marker α => a.offset ≤ b.offset) fun a b : Marker α => a.offset ≤ b.offset :=
    ⟨Nat.le_trans⟩
  rw [← List.isChain_iff_pairwise, List.isChain_iff_getElem]
  -- A position at which markers drop is one more than that of the pair it is the second of.
  constructor
  · intro h i hdrop
    cases i with
    | zero => exact hdrop
    | succ i =>
      obtain ⟨a, b, ha, hb, hlt⟩ := hdrop
      obtain ⟨hi, rfl⟩ := List.getElem?_eq_some_iff.1 ha
      obtain ⟨hi', rfl⟩ := List.getElem?_eq_some_iff.1 hb
      exact Nat.not_le_of_lt hlt (h i hi')
  · intro h i hi
    have ha : markers[i]? = some _ := List.getElem?_eq_getElem (Nat.lt_of_succ_lt hi)
    have hb : markers[i + 1]? = some _ := List.getElem?_eq_getElem hi
    exact Nat.le_of_not_lt fun hlt => h (i + 1) ⟨_, _, ha, hb, hlt⟩

/-- The check looks at each marker and the one in front of it. -/
theorem not_dropsAt_of_checkOrder {index : Nat} {markers : List (Marker α)}
    (h : checkOrder index markers = .ok ()) (i : Nat) : ¬DropsAt markers i := by
  fun_induction checkOrder index markers generalizing i with
  | case1 => simp at h
  | case2 index a b rest hle ih =>
    cases i with
    | zero => exact id
    | succ i =>
      rw [dropsAt_cons_cons, not_or]
      exact ⟨fun hdrop => hle hdrop.2, ih h i⟩
  | case3 markers index hshort =>
    -- There are no two markers.
    rcases markers with _ | ⟨a, _ | ⟨b, rest⟩⟩
    · cases i <;> simp [DropsAt]
    · cases i <;> simp [DropsAt]
    · exact absurd rfl (hshort a b rest)

/-- Markers pass the check just if their offsets never drop. -/
theorem checkOrder_eq_ok_iff {index : Nat} {markers : List (Marker α)} :
    checkOrder index markers = .ok () ↔ markers.Pairwise (·.offset ≤ ·.offset) :=
  ⟨fun h => pairwise_iff_not_dropsAt.2 (not_dropsAt_of_checkOrder h),
    fun h => checkOrder_eq_ok h index⟩

/-- An error of the check names the first position at which the markers drop. -/
theorem exists_isLeast_of_checkOrder {index : Nat} {markers : List (Marker α)} {e : PartitionError}
    (h : checkOrder index markers = .error e) :
    ∃ i a b, IsLeast {i | DropsAt markers i} (i + 1) ∧ markers[i]? = some a ∧
      markers[i + 1]? = some b ∧ e = .unorderedMarkers (index + i + 1) b.offset a.offset := by
  fun_induction checkOrder index markers with
  | case1 index a b rest hlt =>
    cases h
    refine ⟨0, a, b, ⟨⟨a, b, rfl, rfl, hlt⟩, ?_⟩, rfl, rfl, rfl⟩
    intro j hj
    cases j with
    | zero => exact hj.elim
    | succ j => exact Nat.le_add_left 1 j
  | case2 index a b rest hle ih =>
    -- The rest counts its positions from `b`, and the numbers of the error from `index + 1`.
    obtain ⟨i, x, y, ⟨hdrop, hleast⟩, hx, hy, rfl⟩ := ih h
    refine ⟨i + 1, x, y, ⟨dropsAt_cons_cons.2 (Or.inr hdrop), ?_⟩, hx, hy, ?_⟩
    · intro j hj
      cases j with
      | zero => exact hj.elim
      | succ j =>
        obtain ⟨-, hlt⟩ | hj := dropsAt_cons_cons.1 hj
        · exact absurd hlt hle
        · exact Nat.succ_le_succ (hleast hj)
    · rw [Nat.add_right_comm index 1, Nat.add_assoc index]
  | case3 => simp at h

/-- The check fails just at the first position at which the markers drop, and names it with the two
offsets. -/
theorem checkOrder_eq_error_iff {markers : List (Marker α)} {i offset previous : Nat} :
    checkOrder 0 markers = .error (.unorderedMarkers i offset previous) ↔
      IsLeast {i | DropsAt markers i} i ∧ markers[i]?.map (·.offset) = some offset ∧
        markers[i - 1]?.map (·.offset) = some previous := by
  constructor
  · intro h
    obtain ⟨k, a, b, hleast, ha, hb, heq⟩ := exists_isLeast_of_checkOrder h
    rw [Nat.zero_add] at heq
    obtain ⟨rfl, rfl, rfl⟩ := PartitionError.unorderedMarkers.inj heq
    rw [Nat.add_sub_cancel, ha, hb]
    exact ⟨hleast, rfl, rfl⟩
  · rintro ⟨hleast, hoffset, hprevious⟩
    cases h : checkOrder 0 markers with
    | ok => exact absurd hleast.1 (not_dropsAt_of_checkOrder h i)
    | error e =>
      -- There is only one first position.
      obtain ⟨k, a, b, hleast', ha, hb, rfl⟩ := exists_isLeast_of_checkOrder h
      obtain rfl : i = k + 1 := hleast.unique hleast'
      rw [hb] at hoffset
      rw [Nat.add_sub_cancel, ha] at hprevious
      rw [Nat.zero_add, ← Option.some.inj hoffset, ← Option.some.inj hprevious]

end Marker

/-! ## Boundaries and intervals -/

/-- Nothing but the check keeps markers from having boundaries. -/
theorem Boundary.ofMarkers_eq_map (m : LineMetrics) (markers : List (Marker α)) (first last : α) :
    ofMarkers m markers first last =
      (Marker.checkOrder 0 markers).map fun _ => all m markers first last := by
  rw [ofMarkers]
  cases Marker.checkOrder 0 markers <;> rfl

/-- Whether there are intervals is settled by the check alone. -/
theorem Interval.ofMarkers_eq_map (m : LineMetrics) (markers : List (Marker α)) (first last : α) :
    ofMarkers m markers first last =
      (Marker.checkOrder 0 markers).map fun _ => between 0 (Boundary.all m markers first last) := by
  rw [ofMarkers, Boundary.ofMarkers_eq_map]
  cases Marker.checkOrder 0 markers <;> rfl

/-- Markers have boundaries, and a split, just if each lies no earlier than those in front of it.
Otherwise the error names the first marker that lies before the one in front of it, and where the
two lie. -/
theorem Interval.ofMarkers_eq_error_iff (m : LineMetrics) (markers : List (Marker α))
    (first last : α) :
    let boundaries := Boundary.ofMarkers m markers first last
    let split := Interval.ofMarkers m markers first last
    (∀ i offset previous, boundaries = .error (.unorderedMarkers i offset previous) ↔
        IsLeast {i | Marker.DropsAt markers i} i ∧ markers[i]?.map (·.offset) = some offset ∧
          markers[i - 1]?.map (·.offset) = some previous) ∧
      (∀ e, split = .error e ↔ boundaries = .error e) ∧
      ((∃ e, boundaries = .error e) ↔ ∃ i, Marker.DropsAt markers i) ∧
      ((∃ bs, boundaries = .ok bs) ↔ markers.Pairwise (·.offset ≤ ·.offset)) ∧
      ((∃ ivs, split = .ok ivs) ↔ markers.Pairwise (·.offset ≤ ·.offset)) := by
  intro boundaries split
  -- Boundaries and split fail with the check of the order, and only with it.
  have hboundaries : boundaries = (Marker.checkOrder 0 markers).map _ :=
    Boundary.ofMarkers_eq_map m markers first last
  have hsplit : split = (Marker.checkOrder 0 markers).map _ :=
    Interval.ofMarkers_eq_map m markers first last
  have hok : (∃ u, Marker.checkOrder 0 markers = .ok u) ↔ markers.Pairwise (·.offset ≤ ·.offset) :=
    exists_eq_ok_unit.trans Marker.checkOrder_eq_ok_iff
  refine ⟨?first, ?split, ?drops, ?boundaries, ?intervals⟩
  case first =>
    intro i offset previous
    rw [hboundaries, map_eq_error_iff, Marker.checkOrder_eq_error_iff]
  case split =>
    intro e
    rw [hsplit, hboundaries, map_eq_error_iff, map_eq_error_iff]
  case drops =>
    simp only [hboundaries, map_eq_error_iff]
    constructor
    · rintro ⟨e, he⟩
      obtain ⟨i, -, -, hleast, -⟩ := Marker.exists_isLeast_of_checkOrder he
      exact ⟨i + 1, hleast.1⟩
    · rintro ⟨i, hi⟩
      cases h : Marker.checkOrder 0 markers with
      | ok => exact absurd hi (Marker.not_dropsAt_of_checkOrder h i)
      | error e => exact ⟨e, rfl⟩
  case boundaries => rw [hboundaries, exists_map_eq_ok_iff, hok]
  case intervals => rw [hsplit, exists_map_eq_ok_iff, hok]

/-- Of five markers, the third and the fifth one lie before the one in front of them. -/
example :
    let at' (offset : Nat) : Marker Unit := ⟨0, .code, offset, 1, ()⟩
    Interval.ofMarkers (.grid 3 4 (by decide)) [at' 5, at' 5, at' 2, at' 9, at' 1] () () =
      .error (.unorderedMarkers 2 2 5) := rfl

end NotebookLayout
