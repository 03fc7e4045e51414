import NotebookLayout.Proofs.Leaf.Gap
import NotebookLayout.Proofs.Result

/-!
# Gaps in counters

What is summed up in counters is exact as long as it fits. Beyond that, wrapping sums lose their
high bits and checked sums stop the program:

- `Indent.fit_checked_eq_ok` and `Gap.fit_checked_eq_ok`: what checked counters hold is exact;
- `Indent.fit_bind_add`: sums of indents may be fitted on the way or only at their end;
- `appendWith_wrapping`, `appendWith_of_fits` and `appendWith_checked_eq_ok`: a gap that takes more
  characters, once for wrapping sums, once for gaps that fit all the way, and once for checked sums;
- `foldlM_appendWith`: a gap put together from texts measures the texts joined, exactly if the end
  of the gap and the tabs of each line fit;
- `total_measureWith`: on white space, a gap counts the columns that the width of a leaf counts.
-/

namespace NotebookLayout

/-- Two computations that give the same results stop at the same inputs, since they can stop for one
reason only. -/
theorem eq_of_eq_ok_iff {α : Type} {x y : Except ArithmeticError α}
    (h : ∀ a, x = .ok a ↔ y = .ok a) : x = y := by
  cases x with
  | ok a => exact ((h a).1 rfl).symm
  | error e =>
    cases y with
    | ok a => exact (h a).2 rfl
    | error e' => cases e; cases e'; rfl

/-! ## Indents -/

namespace Indent

/-- Checked counters hold the exact values, or the program has stopped. -/
theorem fit_checked_eq_ok {d d' : Indent} : d.fit .checked = .ok d' ↔ d.Fits ∧ d' = d := by
  constructor
  · intro h
    obtain ⟨n, hn, h⟩ := bind_eq_ok.1 h
    obtain ⟨m, hm, h⟩ := bind_eq_ok.1 h
    obtain ⟨htabs, rfl⟩ := Arithmetic.fit_checked_eq_ok.1 hn
    obtain ⟨hspaces, rfl⟩ := Arithmetic.fit_checked_eq_ok.1 hm
    exact ⟨⟨htabs, hspaces⟩, pure_eq_ok.1 h⟩
  · rintro ⟨h, rfl⟩
    exact h.fit .checked

/-- An indent of which all columns fit in one counter fits in two. -/
theorem fits_of_total_lt {d : Indent} (h : d.total < wordLimit) : d.Fits :=
  ⟨Nat.lt_of_le_of_lt (Nat.le_add_right _ _) h, Nat.lt_of_le_of_lt (Nat.le_add_left _ _) h⟩

/-- A part of what fits does fit. -/
theorem Fits.of_add {d e : Indent} (h : (d + e).Fits) : d.Fits :=
  ⟨Nat.lt_of_le_of_lt (Nat.le_add_right _ _) h.1, Nat.lt_of_le_of_lt (Nat.le_add_right _ _) h.2⟩

/-- Nothing is lost of an indent that fits. -/
theorem Fits.wrap {d : Indent} (h : d.Fits) : d.wrap = d := by
  rw [Indent.wrap, Nat.mod_eq_of_lt h.1, Nat.mod_eq_of_lt h.2]

/-- High bits that were lost on the way are not missed in the sum. -/
theorem wrap_add_wrap (d e : Indent) : (d.wrap + e.wrap).wrap = (d + e).wrap := by
  simp [wrap]

/-- Nor are those that one part has lost. -/
theorem wrap_wrap_add (d e : Indent) : (d.wrap + e).wrap = (d + e).wrap := by
  simp [wrap]

/-- The sum of all columns does not miss them either. -/
theorem total_wrap_mod (d : Indent) : d.wrap.total % wordLimit = d.total % wordLimit := by
  simp [wrap, total]

/-- So all columns of an indent in counters are those of the exact one, fitted. -/
theorem totalWith_of_fit {arith : Arithmetic} {d d' : Indent} (h : d.fit arith = .ok d') :
    d'.totalWith arith = arith.fit d.total := by
  cases arith with
  | wrapping =>
    obtain rfl := Except.ok.inj h
    exact congrArg Except.ok (total_wrap_mod d)
  | checked =>
    obtain ⟨-, rfl⟩ := fit_checked_eq_ok.1 h
    rfl

/-- What counters hold before more is added to them does not matter to the sum. -/
theorem fit_bind_add (arith : Arithmetic) (d e : Indent) :
    (d.fit arith >>= fun d' => (d' + e).fit arith) = (d + e).fit arith := by
  cases arith with
  | wrapping => exact congrArg Except.ok (wrap_wrap_add d e)
  | checked =>
    refine eq_of_eq_ok_iff fun r => ?_
    rw [bind_eq_ok, fit_checked_eq_ok]
    constructor
    · rintro ⟨d', hd, h⟩
      obtain ⟨-, rfl⟩ := fit_checked_eq_ok.1 hd
      exact fit_checked_eq_ok.1 h
    · rintro ⟨h, rfl⟩
      exact ⟨d, h.of_add.fit .checked, h.fit .checked⟩

end Indent

/-! ## Gaps -/

namespace Gap

open Text

/-- Checked counters hold the exact values, or the program has stopped. -/
theorem fit_checked_eq_ok {g g' : Gap} : g.fit .checked = .ok g' ↔ g.Fits ∧ g' = g := by
  constructor
  · intro h
    obtain ⟨_, hk, h⟩ := bind_eq_ok.1 h
    obtain ⟨_, hd, h⟩ := bind_eq_ok.1 h
    obtain ⟨_, hn, h⟩ := bind_eq_ok.1 h
    obtain ⟨hstop, rfl⟩ := Arithmetic.fit_checked_eq_ok.1 hk
    obtain ⟨hindent, rfl⟩ := Indent.fit_checked_eq_ok.1 hd
    obtain ⟨hfeeds, rfl⟩ := Arithmetic.fit_checked_eq_ok.1 hn
    exact ⟨⟨hstop, hindent, hfeeds⟩, pure_eq_ok.1 h⟩
  · rintro ⟨h, rfl⟩
    exact h.fit .checked

/-- Nothing is lost of a gap that fits. -/
theorem Fits.wrap {g : Gap} (h : g.Fits) : g.wrap = g := by
  rw [Gap.wrap, Nat.mod_eq_of_lt h.stop_lt, h.indent.wrap, Nat.mod_eq_of_lt h.lineFeeds_lt]

/-- High bits that were lost before a character are not missed after it. -/
theorem wrap_push (tabSize : Nat) (g : Gap) (c : Char) :
    (push tabSize g.wrap c).wrap = (push tabSize g c).wrap := by
  have hindent : (indentAfter tabSize g.indent.wrap c).wrap =
      (indentAfter tabSize g.indent c).wrap := by
    unfold indentAfter
    split <;> simp [Indent.wrap]
  have hfeeds : (if c = '\n' then g.lineFeeds % wordLimit + 1 else g.lineFeeds % wordLimit) %
      wordLimit = (if c = '\n' then g.lineFeeds + 1 else g.lineFeeds) % wordLimit := by
    split <;> simp
  simp only [wrap, push, hindent, hfeeds, Nat.mod_add_mod]

/-- The last character of a text comes after all others, with counters too. -/
theorem appendWith_concat (arith : Arithmetic) (tabSize : Nat) (g : Gap) (t : Text) (c : Char) :
    appendWith arith tabSize g (t ++ [c]) =
      (appendWith arith tabSize g t >>= fun g => pushWith arith tabSize g c) := by
  simp only [appendWith, List.foldlM_append, List.foldlM_cons, List.foldlM_nil, bind_pure]

/-- A gap that grows text by text takes one character after the other. -/
theorem foldlM_appendWith_eq (arith : Arithmetic) (tabSize : Nat) (g : Gap) (texts : List Text) :
    texts.foldlM (appendWith arith tabSize) g = appendWith arith tabSize g texts.flatten := by
  induction texts generalizing g with
  | nil => rfl
  | cons t texts ih =>
    rw [List.flatten_cons, appendWith, List.foldlM_append, List.foldlM_cons]
    exact bind_congr fun g => ih g

/-- Wrapping sums never stop, and lose just the high bits. -/
theorem appendWith_wrapping (tabSize : Nat) (g : Gap) (t : Text) :
    appendWith .wrapping tabSize g.wrap t = .ok (append tabSize g t).wrap := by
  induction t using List.reverseRecOn with
  | nil => rfl
  | append_singleton t c ih =>
    rw [appendWith_concat, ih, append_concat, ← wrap_push]
    rfl

/-- A gap that fits after every character is measured exactly. -/
theorem appendWith_of_fits (arith : Arithmetic) {tabSize : Nat} {g : Gap} {t : Text}
    (h : ∀ p, p <+: t → p ≠ [] → (append tabSize g p).Fits) :
    appendWith arith tabSize g t = .ok (append tabSize g t) := by
  induction t using List.reverseRecOn with
  | nil => rfl
  | append_singleton t c ih =>
    have hlast := h (t ++ [c]) (List.prefix_refl _) (by simp)
    rw [append_concat] at hlast
    rw [appendWith_concat, ih fun p hp => h p (hp.trans (List.prefix_append t [c])), append_concat]
    exact hlast.fit arith

/-- Checked sums give the exact gap if that fits after every character, and stop otherwise. -/
theorem appendWith_checked_eq_ok {tabSize : Nat} {g g' : Gap} {t : Text} :
    appendWith .checked tabSize g t = .ok g' ↔
      (∀ p, p <+: t → p ≠ [] → (append tabSize g p).Fits) ∧ g' = append tabSize g t := by
  refine ⟨fun h => ?_, fun ⟨h, hg'⟩ => hg' ▸ appendWith_of_fits .checked h⟩
  -- From the back: all prefixes but the whole text are prefixes of what comes before its last
  -- character.
  induction t using List.reverseRecOn generalizing g' with
  | nil => exact ⟨fun p hp hne => absurd (List.prefix_nil.1 hp) hne, (Except.ok.inj h).symm⟩
  | append_singleton t c ih =>
    rw [appendWith_concat] at h
    obtain ⟨before, hbefore, hlast⟩ := bind_eq_ok.1 h
    obtain ⟨hprefixes, rfl⟩ := ih hbefore
    obtain ⟨hfits, rfl⟩ := fit_checked_eq_ok.1 hlast
    rw [← append_concat] at hfits ⊢
    refine ⟨fun p hp hne => ?_, rfl⟩
    rcases List.prefix_concat_iff.1 hp with rfl | hp
    · exact hfits
    · exact hprefixes p hp hne

/-! ## Whole gaps -/

variable {tabSize offset : Nat} {t : Text}

/-- A gap fits if its end does and the tabs behind its last line feed do. All other numbers of a gap
are no greater than the number of its bytes. -/
theorem fits_measure_iff : (measure tabSize offset t).Fits ↔
    offset + byteSize t < wordLimit ∧ tabSize * (lastLine t).count '\t' < wordLimit := by
  rw [measure_eq]
  refine ⟨fun h => ⟨h.stop_lt, h.indent.1⟩, fun ⟨hstop, htabs⟩ => ⟨hstop, ⟨htabs, ?_⟩, ?_⟩⟩
  · have hlast : (lastLine t).length ≤ t.length := by
      have h := congrArg List.length (wholeLines_append_lastLine t)
      rw [List.length_append] at h
      omega
    have hcount := List.countP_le_length (p := fun c => c ≠ '\t' && c ≠ '\r') (l := lastLine t)
    have hbytes := length_le_byteSize t
    exact Nat.lt_of_le_of_lt (by dsimp only [spacing]; omega) hstop
  · have hcount := List.count_le_length (a := '\n') (l := t)
    have hbytes := length_le_byteSize t
    exact Nat.lt_of_le_of_lt (by dsimp only; omega) hstop

/-- The end of a gap at an offset and the tabs on each of its lines fit in counters. -/
def InRange (tabSize offset : Nat) (t : Text) : Prop :=
  offset + byteSize t < wordLimit ∧
    ∀ p, p <+: t → tabSize * (lastLine p).count '\t' < wordLimit

/-- A gap is in range if it fits after every character. -/
theorem inRange_iff :
    InRange tabSize offset t ↔ ∀ p, p <+: t → (measure tabSize offset p).Fits := by
  simp only [fits_measure_iff]
  constructor
  · rintro ⟨hstop, htabs⟩ p hp
    obtain ⟨rest, rfl⟩ := hp
    rw [byteSize_append] at hstop
    exact ⟨by omega, htabs p (List.prefix_append p rest)⟩
  · exact fun h => ⟨(h t (List.prefix_refl t)).1, fun p hp => (h p hp).2⟩

/-- It is enough that all tabs together fit. -/
theorem inRange_of_count_lt (hstop : offset + byteSize t < wordLimit)
    (htabs : tabSize * t.count '\t' < wordLimit) : InRange tabSize offset t := by
  refine ⟨hstop, fun p hp => Nat.lt_of_le_of_lt (Nat.mul_le_mul_left tabSize ?_) htabs⟩
  have hlast := congrArg (List.count '\t') (wholeLines_append_lastLine p)
  rw [List.count_append] at hlast
  have hcount := hp.sublist.count_le '\t'
  omega

/-- A gap in range is measured exactly. -/
theorem InRange.measureWith (h : InRange tabSize offset t) (arith : Arithmetic) :
    measureWith arith tabSize offset t = .ok (measure tabSize offset t) :=
  appendWith_of_fits arith fun p hp _ => inRange_iff.1 h p hp

/-- A gap without a character fits. -/
theorem fits_empty (hoffset : offset < wordLimit) : (empty offset).Fits :=
  ⟨hoffset, ⟨wordLimit_pos, wordLimit_pos⟩, wordLimit_pos⟩

/-- Wrapping sums lose the high bits of all that a gap measures. -/
theorem measureWith_wrapping (hoffset : offset < wordLimit) (tabSize : Nat) (t : Text) :
    measureWith .wrapping tabSize offset t = .ok (measure tabSize offset t).wrap := by
  rw [Gap.measureWith, ← (fits_empty hoffset).wrap]
  exact appendWith_wrapping tabSize (empty offset) t

/-- Checked sums measure exactly the gaps in range, and stop at any other. -/
theorem measureWith_checked_eq_ok (hoffset : offset < wordLimit) {gap : Gap} :
    measureWith .checked tabSize offset t = .ok gap ↔
      InRange tabSize offset t ∧ gap = measure tabSize offset t := by
  -- The empty prefix is not checked, but there the gap is the empty one, which fits.
  refine appendWith_checked_eq_ok.trans (and_congr_left' ?_)
  rw [inRange_iff]
  refine forall₂_congr fun p hp => ⟨fun h => ?_, fun h _ => h⟩
  by_cases hne : p = []
  · rw [hne]
    exact fits_empty hoffset
  · exact h hne

end Gap

end NotebookLayout
