import NotebookLayout.Proofs.Partition.Cover

/-!
# Looking up a line

The interval of a line is found by halving, which looks at a few stops and at a single interval.
This file compares it with a scan of all the intervals:

- `getElem?_bisect`: where a property, once lost, stays lost along a list, halving finds the first
  element without it;
- `filter_find?_stop`: if starts do not decrease, only the first interval that stops after a line
  can hold it;
- `Ordered.find?_eq_find?`: so halving finds what a scan finds;
- `Tiles.ordered` and `Tiles.eq_of_contains`: this goes for the intervals of a split, of which no
  two hold one line;
- `find?_eq_scan` and `holdsEachOnce_of_partitionFault?`: what all this says of intervals in order,
  and of those that pass the check of a split.
-/

namespace NotebookLayout

/-- Where a property, once lost, stays lost along a list, halving finds the first element that has
it not. -/
theorem getElem?_bisect {β : Type} {l : List β} {q : β → Bool}
    (hq : l.Pairwise fun a b => q b = true → q a = true) :
    l[bisect (fun i => l[i]?.any q) l.length]? = l.find? fun x => !q x := by
  rw [bisect_eq_countP hq]
  induction l with
  | nil => rfl
  | cons x l ih =>
    obtain ⟨hx, hl⟩ := List.pairwise_cons.1 hq
    cases hqx : q x with
    | true =>
      rw [List.countP_cons_of_pos hqx, List.getElem?_cons_succ, ih hl,
        List.find?_cons_of_neg (by simp [hqx])]
    | false =>
      -- No later element has the property either, so the count is zero.
      have hnone : l.countP q = 0 := List.countP_eq_zero.2 fun y hy hqy => by
        rw [hx y hy hqy] at hqx
        exact absurd hqx (by simp)
      rw [List.countP_cons_of_neg (by simp [hqx]), hnone, List.find?_cons_of_pos (by simp [hqx])]
      rfl

variable {α : Type}

namespace Interval

/-! ## Intervals in order -/

/-- Neither starts nor stops decrease along the intervals. They may leave lines out, share lines, be
empty and run backwards. -/
structure Ordered (ivs : List (Interval α)) : Prop where
  starts : ivs.Pairwise (·.lines.start ≤ ·.lines.start)
  stops : ivs.Pairwise (·.lines.stop ≤ ·.lines.stop)

/-- The first interval that stops after a line starts no later than any other such, so if it does
not hold the line, then none does. -/
theorem filter_find?_stop {ivs : List (Interval α)}
    (h : ivs.Pairwise (·.lines.start ≤ ·.lines.start)) (line : Nat) :
    (ivs.find? fun iv => !decide (iv.lines.stop ≤ line)).filter (·.lines.contains line) =
      ivs.find? (·.lines.contains line) := by
  induction ivs with
  | nil => rfl
  | cons iv rest ih =>
    obtain ⟨hstart, hrest⟩ := List.pairwise_cons.1 h
    by_cases hstop : iv.lines.stop ≤ line
    · have hout : iv.lines.contains line = false := Bool.eq_false_iff.2 fun hin =>
        Nat.not_lt_of_le hstop (LineRange.contains_iff.1 hin).2
      simp [hstop, hout, ih hrest]
    · cases hin : iv.lines.contains line with
      | true => simp [hstop, hin]
      | false =>
        -- The line is in front of this interval, and so in front of all that come after it.
        have hlt : line < iv.lines.start := by
          rw [← Bool.not_eq_true, LineRange.contains_iff] at hin
          omega
        have hnone : rest.find? (·.lines.contains line) = none := by
          refine List.find?_eq_none.2 fun other hother hc => ?_
          exact Nat.not_le_of_lt (Nat.lt_of_lt_of_le hlt (hstart other hother))
            (LineRange.contains_iff.1 hc).1
        simp [hstop, hin, hnone]

/-- Halving finds what a scan finds. -/
theorem Ordered.find?_eq_find? {ivs : Array (Interval α)} (h : Ordered ivs.toList) (line : Nat) :
    find? ivs line = ivs.toList.find? (·.lines.contains line) := by
  -- An interval that stops by the line has only such intervals in front of it.
  have hstops : ivs.toList.Pairwise fun a b =>
      decide (b.lines.stop ≤ line) = true → decide (a.lines.stop ≤ line) = true :=
    h.stops.imp fun hle => by
      simp only [decide_eq_true_iff]
      exact Nat.le_trans hle
  have hby : endsBy ivs line = fun i => ivs.toList[i]?.any (·.lines.stop ≤ line) := by
    funext i
    rw [endsBy, Array.getElem?_toList]
  rw [find?, hby, ← Array.getElem?_toList, ← Array.length_toList, getElem?_bisect hstops,
    filter_find?_stop h.starts]

/-- The interval that a scan finds holds the line, and no interval in front of it does. -/
theorem find?_contains_eq_some_iff {ivs : List (Interval α)} {line : Nat} {iv : Interval α} :
    ivs.find? (·.lines.contains line) = some iv ↔
      ∃ i : Nat, ivs[i]? = some iv ∧ iv.lines.contains line = true ∧
        ∀ j < i, ∀ other : Interval α, ivs[j]? = some other →
          other.lines.contains line = false := by
  rw [List.find?_eq_some_iff_getElem]
  constructor
  · rintro ⟨hin, i, hi, rfl, hbefore⟩
    refine ⟨i, List.getElem?_eq_getElem hi, hin, fun j hj other hother => ?_⟩
    obtain ⟨hj', rfl⟩ := List.getElem?_eq_some_iff.1 hother
    simpa using hbefore j hj
  · rintro ⟨i, hiv, hin, hbefore⟩
    obtain ⟨hi, rfl⟩ := List.getElem?_eq_some_iff.1 hiv
    refine ⟨hin, i, hi, rfl, fun j hj => ?_⟩
    simpa using hbefore j hj _ (List.getElem?_eq_getElem (Nat.lt_trans hj hi))

/-- If neither starts nor stops decrease, halving finds the first interval that holds a line, and
none just if no interval does. -/
theorem find?_eq_scan {ivs : Array (Interval α)} (h : Ordered ivs.toList) (line : Nat) :
    find? ivs line = ivs.toList.find? (·.lines.contains line) ∧
      (∀ iv, find? ivs line = some iv ↔
        ∃ i : Nat, ivs[i]? = some iv ∧ iv.lines.contains line = true ∧
          ∀ j < i, ∀ other, ivs[j]? = some other → other.lines.contains line = false) ∧
      (find? ivs line = none ↔ ∀ iv ∈ ivs, iv.lines.contains line = false) := by
  have hscan := h.find?_eq_find? line
  refine ⟨hscan, fun iv => ?_, ?_⟩
  · rw [hscan, find?_contains_eq_some_iff]
    simp only [Array.getElem?_toList]
  · rw [hscan, List.find?_eq_none]
    simp only [Array.mem_toList_iff, Bool.not_eq_true]

/-- A gap, an interval that runs backwards and an empty one; two intervals hold line 6. -/
theorem find?_eq_scan_gap_and_backwards :
    let lines (a b : Nat) : Interval Unit := ⟨0, .code, ⟨a, b⟩, true, ()⟩
    let ivs := #[lines 0 2, lines 5 3, lines 5 5, lines 5 7, lines 6 9]
    Ordered ivs.toList ∧ find? ivs 6 = ivs.toList.find? (·.lines.contains 6) ∧
      find? ivs 6 = some (lines 5 7) ∧ find? ivs 3 = none := by
  intro lines ivs
  have h : Ordered ivs.toList := ⟨by decide, by decide⟩
  obtain ⟨hscan, -, -⟩ := find?_eq_scan h 6
  obtain ⟨-, -, hnone⟩ := find?_eq_scan h 3
  exact ⟨h, hscan, hscan.trans rfl, hnone.2 (by decide)⟩

/-! ## Splits -/

/-- No interval of a tiling starts in front of it. -/
theorem Tiles.start_le {start stop : Nat} {ivs : List (Interval α)} (h : Tiles start stop ivs) :
    ∀ iv ∈ ivs, start ≤ iv.lines.start := by
  induction ivs generalizing start with
  | nil => simp
  | cons iv rest ih =>
    obtain ⟨rfl, hle, hrest⟩ := h
    exact List.forall_mem_cons.2
      ⟨Nat.le_refl _, fun other hother => Nat.le_trans hle (ih hrest other hother)⟩

/-- Of two intervals of a tiling, the one in front stops before the other starts. -/
theorem Tiles.pairwise {start stop : Nat} {ivs : List (Interval α)} (h : Tiles start stop ivs) :
    ivs.Pairwise (·.lines.stop ≤ ·.lines.start) := by
  induction ivs generalizing start with
  | nil => exact List.Pairwise.nil
  | cons iv rest ih =>
    obtain ⟨-, -, hrest⟩ := h
    exact List.pairwise_cons.2 ⟨hrest.start_le, ih hrest⟩

/-- A tiling is in order. -/
theorem Tiles.ordered {start stop : Nat} {ivs : List (Interval α)} (h : Tiles start stop ivs) :
    Ordered ivs where
  starts := h.pairwise.imp_of_mem fun ha _ hab => Nat.le_trans (h.forward _ ha) hab
  stops := h.pairwise.imp_of_mem fun _ hb hab => Nat.le_trans hab (h.forward _ hb)

/-- No two intervals of a tiling hold one line. -/
theorem Tiles.eq_of_contains {start stop : Nat} {ivs : List (Interval α)} (h : Tiles start stop ivs)
    {line i j : Nat} {iv other : Interval α} (hiv : ivs[i]? = some iv)
    (hother : ivs[j]? = some other) (hin : iv.lines.contains line = true)
    (hin' : other.lines.contains line = true) : i = j := by
  obtain ⟨hi, rfl⟩ := List.getElem?_eq_some_iff.1 hiv
  obtain ⟨hj, rfl⟩ := List.getElem?_eq_some_iff.1 hother
  have hpairs := List.pairwise_iff_getElem.1 h.pairwise
  rw [LineRange.contains_iff] at hin hin'
  rcases Nat.lt_trichotomy i j with hlt | heq | hgt
  · have := hpairs i j hi hj hlt
    omega
  · exact heq
  · have := hpairs j i hj hi hgt
    omega

/-- Intervals that pass the check of a split hold every line of the document just once, and no other
line. The interval that holds a line is the one that is found for it. -/
theorem holdsEachOnce_of_partitionFault? {m : LineMetrics} {ivs : Array (Interval α)}
    (h : partitionFault? m ivs.toList = none) :
    (∀ line < m.endLine, ∃ (i : Nat) (iv : Interval α), ivs[i]? = some iv ∧
        iv.lines.contains line = true ∧
        (∀ (j : Nat) (other : Interval α), ivs[j]? = some other →
          other.lines.contains line = true → j = i) ∧
        find? ivs line = some iv) ∧
      (∀ line, m.endLine ≤ line →
        (∀ iv ∈ ivs, iv.lines.contains line = false) ∧ find? ivs line = none) ∧
      (ivs.toList.map (·.lines.count)).sum = m.endLine := by
  obtain ⟨-, htiles, -⟩ := partitionFault?_eq_none_iff.1 h
  have hfind := htiles.ordered.find?_eq_find?
  refine ⟨fun line hline => ?_, fun line hline => ?_, ?_⟩
  · -- Some interval holds the line, so the scan does not miss it.
    have hcount := htiles.countP_contains line
    rw [if_pos ⟨Nat.zero_le line, hline⟩] at hcount
    obtain ⟨iv, hiv⟩ : ∃ iv, ivs.toList.find? (·.lines.contains line) = some iv := by
      rw [← Option.isSome_iff_exists, List.find?_isSome, ← List.countP_pos_iff, hcount]
      exact Nat.zero_lt_one
    obtain ⟨i, hi, hin, -⟩ := find?_contains_eq_some_iff.1 hiv
    refine ⟨i, iv, by rwa [← Array.getElem?_toList], hin, fun j other hj hin' => ?_,
      (hfind line).trans hiv⟩
    rw [← Array.getElem?_toList] at hj
    exact htiles.eq_of_contains hj hi hin' hin
  · -- No interval holds a line beyond the last one, so the scan finds none either.
    have hcount := htiles.countP_contains line
    rw [if_neg (by omega), List.countP_eq_zero] at hcount
    have hout : ∀ iv ∈ ivs.toList, iv.lines.contains line = false := fun iv hiv =>
      Bool.eq_false_iff.2 (hcount iv hiv)
    refine ⟨fun iv hiv => hout iv (Array.mem_toList_iff.2 hiv), ?_⟩
    rw [hfind, List.find?_eq_none]
    exact hcount
  · rw [htiles.sum_count, Nat.sub_zero]

/-- Three lines, and an empty interval in front of the one that line 1 is in. -/
theorem holdsEachOnce_of_partitionFault?_empty :
    let m := LineMetrics.grid 3 4 (by decide)
    let ivs : Array (Interval Unit) := #[⟨0, .raw, ⟨0, 1⟩, false, ()⟩,
      ⟨1, .code, ⟨1, 1⟩, true, ()⟩, ⟨2, .markdown, ⟨1, 3⟩, true, ()⟩]
    partitionFault? m ivs.toList = none ∧ 1 < m.endLine ∧ m.endLine ≤ 3 ∧
      (∃ (i : Nat) (iv : Interval Unit), ivs[i]? = some iv ∧ iv.lines.contains 1 = true ∧
        find? ivs 1 = some iv) ∧
      find? ivs 3 = none ∧ (ivs.toList.map (·.lines.count)).sum = m.endLine := by
  intro m ivs
  have hcheck : partitionFault? m ivs.toList = none := by decide
  obtain ⟨hfound, hmissing, hsum⟩ := holdsEachOnce_of_partitionFault? hcheck
  obtain ⟨i, iv, hi, hin, -, hfind⟩ := hfound 1 (by decide)
  exact ⟨hcheck, by decide, by decide, ⟨i, iv, hi, hin, hfind⟩, (hmissing 3 (by decide)).2, hsum⟩

end Interval

end NotebookLayout
