import Mathlib.Data.List.TakeWhile
import Mathlib.Order.Monotone.Defs
import NotebookLayout.Document.Basic
import NotebookLayout.Leaf.Columns
import NotebookLayout.Proofs.Text.Trim

/-!
# Lines by counting line feeds

The line index finds lines by halving a table of starts. This file says what it finds in terms of
the line feeds of the text alone:

- `splitLines_append`: a text that is cut after a line feed has the lines of both parts;
- `wholeLines_append_of_endsLine`: a text is its whole lines and then its last line;
- `lineOf_eq_countP`: the line of an offset is the number of line feeds in front of it;
- `startOf_count`: a part of the text that ends with a line feed ends where a line starts, and its
  line feeds count that line's number;
- `startOf_eq_byteSize`: a line starts where the lines in front of it end;
- `slice?_lines` and `slice?_lineStart`: the text between the starts of two lines, and the text from
  the start of an offset's line up to the offset.
-/

namespace NotebookLayout

namespace Text

/-! ## Offsets of a character -/

/-- The offsets at which a character stands in a text that begins at `offset`. -/
def offsetsOf (x : Char) (offset : Nat) : Text → List Nat
  | [] => []
  | c :: t =>
    if c = x then offset :: offsetsOf x (offset + c.utf8Size) t
    else offsetsOf x (offset + c.utf8Size) t

/-- In texts joined, a character stands where it does in the parts. -/
theorem offsetsOf_append (x : Char) (offset : Nat) (s t : Text) :
    offsetsOf x offset (s ++ t) = offsetsOf x offset s ++ offsetsOf x (offset + byteSize s) t := by
  induction s generalizing offset with
  | nil => simp [offsetsOf]
  | cons c s ih =>
    simp only [List.cons_append, offsetsOf, ih, byteSize_cons, Nat.add_assoc]
    split <;> rfl

/-- There is an offset for each time that the character is in the text. -/
theorem length_offsetsOf (x : Char) (offset : Nat) (t : Text) :
    (offsetsOf x offset t).length = t.count x := by
  induction t generalizing offset with
  | nil => rfl
  | cons c t ih =>
    by_cases h : c = x
    · simp [offsetsOf, h, ih]
    · simp [offsetsOf, h, ih]

/-- All of these offsets lie in the text. -/
theorem bounds_of_mem_offsetsOf {x : Char} {offset k : Nat} {t : Text}
    (h : k ∈ offsetsOf x offset t) : offset ≤ k ∧ k < offset + byteSize t := by
  induction t generalizing offset with
  | nil => simp [offsetsOf] at h
  | cons c t ih =>
    have hc := c.utf8Size_pos
    rw [byteSize_cons]
    have hrest : k ∈ offsetsOf x (offset + c.utf8Size) t →
        offset ≤ k ∧ k < offset + (c.utf8Size + byteSize t) := fun hk => by
      have := ih hk
      omega
    rw [offsetsOf] at h
    split at h
    next =>
      rcases List.mem_cons.1 h with rfl | hk
      · omega
      · exact hrest hk
    next => exact hrest h

/-- The offsets come in order. -/
theorem pairwise_offsetsOf (x : Char) (offset : Nat) (t : Text) :
    (offsetsOf x offset t).Pairwise (· < ·) := by
  induction t generalizing offset with
  | nil => exact List.Pairwise.nil
  | cons c t ih =>
    rw [offsetsOf]
    split
    next =>
      refine List.pairwise_cons.2 ⟨fun k hk => ?_, ih _⟩
      have := (bounds_of_mem_offsetsOf hk).1
      have := c.utf8Size_pos
      omega
    next => exact ih _

/-- The occurrences in front of an offset between characters are those in the text before it. -/
theorem countP_offsetsOf_append (x : Char) (a b : Text) :
    (offsetsOf x 0 (a ++ b)).countP (· < byteSize a) = a.count x := by
  have hbefore : (offsetsOf x 0 a).countP (· < byteSize a) = (offsetsOf x 0 a).length := by
    refine List.countP_eq_length.2 fun k hk => ?_
    have := (bounds_of_mem_offsetsOf hk).2
    simpa using this
  have hafter : (offsetsOf x (byteSize a) b).countP (· < byteSize a) = 0 := by
    refine List.countP_eq_zero.2 fun k hk => ?_
    have := (bounds_of_mem_offsetsOf hk).1
    simpa using this
  rw [offsetsOf_append, List.countP_append, hbefore, length_offsetsOf, Nat.zero_add, hafter,
    Nat.add_zero]

/-! ## Texts that end lines -/

/-- A line starts after the text: it is empty or ends with a line feed. -/
def EndsLine (t : Text) : Prop := t = [] ∨ t.getLast? = some '\n'

theorem endsLine_nil : EndsLine [] := Or.inl rfl

/-- A text with a line feed at its end ends a line. -/
theorem endsLine_newline (t : Text) : EndsLine (t ++ ['\n']) := Or.inr List.getLast?_concat

/-- So do two texts that each end one. -/
theorem EndsLine.append {s t : Text} (hs : EndsLine s) (ht : EndsLine t) : EndsLine (s ++ t) := by
  rcases ht with rfl | ht
  · rwa [List.append_nil]
  · obtain ⟨u, rfl⟩ := List.getLast?_eq_some_iff.1 ht
    rw [← List.append_assoc]
    exact endsLine_newline _

/-- What is left of a text that ends a line ends it too. -/
theorem EndsLine.of_cons {c : Char} {t : Text} (h : EndsLine (c :: t)) : EndsLine t := by
  rcases h with h | h
  · simp at h
  · cases t with
    | nil => exact endsLine_nil
    | cons d t => exact Or.inr (by simpa using h)

/-- There is something left of it behind any other character. -/
theorem EndsLine.ne_nil_of_cons {c : Char} {t : Text} (h : EndsLine (c :: t)) (hc : c ≠ '\n') :
    t ≠ [] := by
  rintro rfl
  rcases h with h | h
  · simp at h
  · exact hc (by simpa using h)

/-- There is no line feed in the last line. -/
theorem newline_not_mem_lastLine (t : Text) : '\n' ∉ lastLine t := by
  intro h
  rw [lastLine, takeEndWhile, List.mem_reverse] at h
  simpa using List.mem_takeWhile_imp h

/-- The part of a text up to its last line feed, which it takes in. -/
def wholeLines (t : Text) : Text := dropEndWhile (· ≠ '\n') t

/-- The whole lines and the last line are the text. -/
theorem wholeLines_append_lastLine (t : Text) : wholeLines t ++ lastLine t = t :=
  dropEndWhile_append_takeEndWhile _ t

/-- A carriage return that a line feed follows is not on the last line. -/
theorem return_notMem_lastLine {t : Text} (h : ∀ i, t[i]? = some '\r' → t[i + 1]? = some '\n') :
    '\r' ∉ lastLine t := by
  intro hmem
  obtain ⟨i, hi⟩ := List.getElem?_of_mem hmem
  have hshift : ∀ k, t[(wholeLines t).length + k]? = (lastLine t)[k]? := by
    intro k
    calc t[(wholeLines t).length + k]?
        = (wholeLines t ++ lastLine t)[(wholeLines t).length + k]? := by
          rw [wholeLines_append_lastLine]
      _ = (lastLine t)[k]? := by
          rw [List.getElem?_append_right (Nat.le_add_right _ _), Nat.add_sub_cancel_left]
  -- The line feed would be on the last line, too.
  have hfeed := h _ ((hshift i).trans hi)
  rw [Nat.add_assoc, hshift] at hfeed
  exact newline_not_mem_lastLine t (List.mem_of_getElem? hfeed)

/-- The whole lines end a line. -/
theorem endsLine_wholeLines (t : Text) : EndsLine (wholeLines t) := by
  obtain ⟨_, -, -, hlast⟩ := dropEndWhile_eq_iff.1 (Eq.refl (wholeLines t))
  cases h : (wholeLines t).getLast? with
  | none => exact Or.inl (List.getLast?_eq_none_iff.1 h)
  | some c =>
    have hc : c = '\n' := by simpa using hlast c h
    exact Or.inr (hc ▸ h)

/-- All line feeds are in the whole lines. -/
theorem count_wholeLines (t : Text) : (wholeLines t).count '\n' = t.count '\n' := by
  have hcount := congrArg (List.count '\n') (wholeLines_append_lastLine t)
  have hlast : (lastLine t).count '\n' = 0 := List.count_eq_zero.2 (newline_not_mem_lastLine t)
  rw [List.count_append, hlast] at hcount
  exact hcount

/-- There is only one way to cut a text into whole lines and a part without a line feed. -/
theorem wholeLines_append_of_endsLine {u v : Text} (hu : EndsLine u) (hv : '\n' ∉ v) :
    wholeLines (u ++ v) = u ∧ lastLine (u ++ v) = v := by
  have hwhole : wholeLines (u ++ v) = u := by
    refine dropEndWhile_eq_iff.2 ⟨v, rfl, fun c hc => ?_, fun c hc => ?_⟩
    · rw [decide_eq_true_iff]
      rintro rfl
      exact hv hc
    · rcases hu with rfl | hu
      · simp at hc
      · rw [hu] at hc
        obtain rfl := Option.some.inj hc
        rfl
  -- What is left without the whole lines is `v`.
  refine ⟨hwhole, ?_⟩
  have h := wholeLines_append_lastLine (u ++ v)
  rw [hwhole] at h
  exact List.append_cancel_left h

/-- Without a line feed, what is put at the end belongs to the last line. -/
theorem wholeLines_append_of_notMem (u : Text) {v : Text} (hv : '\n' ∉ v) :
    wholeLines (u ++ v) = wholeLines u ∧ lastLine (u ++ v) = lastLine u ++ v := by
  have hmem : '\n' ∉ lastLine u ++ v := by
    simp [newline_not_mem_lastLine u, hv]
  have h := wholeLines_append_of_endsLine (endsLine_wholeLines u) hmem
  rwa [← List.append_assoc, wholeLines_append_lastLine] at h

/-- The last line starts in the text. -/
theorem byteSize_wholeLines_le (t : Text) : byteSize (wholeLines t) ≤ byteSize t := by
  have h := congrArg byteSize (wholeLines_append_lastLine t)
  rw [byteSize_append] at h
  omega

/-- Of a text that ends a line, nothing is left behind the whole lines. -/
theorem wholeLines_of_endsLine {t : Text} (h : EndsLine t) :
    wholeLines t = t ∧ lastLine t = [] := by
  have := wholeLines_append_of_endsLine h (v := []) List.not_mem_nil
  rwa [List.append_nil] at this

/-- A text without line feeds is all last line. -/
theorem wholeLines_of_notMem {t : Text} (h : '\n' ∉ t) : wholeLines t = [] ∧ lastLine t = t :=
  wholeLines_append_of_endsLine endsLine_nil h

/-- What stands in front of a line feed does not reach the last line. -/
theorem wholeLines_append_of_mem (u : Text) {v : Text} (hv : '\n' ∈ v) :
    wholeLines (u ++ v) = u ++ wholeLines v ∧ lastLine (u ++ v) = lastLine v := by
  have hends : EndsLine (u ++ wholeLines v) := by
    rcases endsLine_wholeLines v with hnil | hlast
    · -- The feed would have to be in the last line.
      have h := wholeLines_append_lastLine v
      rw [hnil, List.nil_append] at h
      rw [← h] at hv
      exact absurd hv (newline_not_mem_lastLine v)
    · refine Or.inr ?_
      rw [List.getLast?_append, hlast]
      rfl
  have h := wholeLines_append_of_endsLine hends (newline_not_mem_lastLine v)
  rwa [List.append_assoc, wholeLines_append_lastLine] at h

/-! ## Splitting into lines -/

/-- Behind a text that ends a line, the lines go on with those of the other text. -/
theorem splitLines_append {u : Text} (hu : EndsLine u) (v : Text) :
    splitLines (u ++ v) = splitLines u ++ splitLines v := by
  induction u with
  | nil => rfl
  | cons c u ih =>
    have ih := ih hu.of_cons
    by_cases hc : c = '\n'
    · simp [splitLines, hc, ih]
    · -- The line that `c` begins ends inside `u`.
      have hne : splitLines u ≠ [] := fun hnil => hu.ne_nil_of_cons hc <| by
        rw [← flatten_splitLines u, hnil]
        rfl
      obtain ⟨line, lines, hl⟩ := List.exists_cons_of_ne_nil hne
      simp [splitLines, hc, ih, hl]

/-- The text is a single line with its line feed. -/
def IsFullLine (t : Text) : Prop := ∃ body, t = body ++ ['\n'] ∧ '\n' ∉ body

/-- A line is full or, if it is the last one, may lack the line feed. -/
theorem isFullLine_of_splitLines {t : Text} {pre post : List Text} {line : Text}
    (h : splitLines t = pre ++ line :: post) : IsFullLine line ∨ post = [] ∧ '\n' ∉ line := by
  fun_induction splitLines t generalizing pre line with
  | case1 => simp at h
  | case2 t ih =>
    cases pre with
    | nil =>
      obtain ⟨rfl, -⟩ := List.cons.inj h
      exact Or.inl ⟨[], rfl, List.not_mem_nil⟩
    | cons _ pre => exact ih (List.cons.inj h).2
  | case3 c t hc hnil ih =>
    cases pre with
    | nil =>
      obtain ⟨rfl, hpost⟩ := List.cons.inj h
      exact Or.inr ⟨hpost.symm, by simpa using Ne.symm hc⟩
    | cons _ pre => simp at h
  | case4 c t hc first lines hl ih =>
    cases pre with
    | nil =>
      -- Putting `c` in front of the first line changes nothing at the end of that line.
      obtain ⟨rfl, rfl⟩ := List.cons.inj h
      have ih := ih (show splitLines t = [] ++ first :: lines from hl)
      rcases ih with ⟨body, rfl, hbody⟩ | ⟨hpost, hfirst⟩
      · refine Or.inl ⟨c :: body, rfl, ?_⟩
        simp [hbody, Ne.symm hc]
      · refine Or.inr ⟨hpost, ?_⟩
        simp [hfirst, Ne.symm hc]
    | cons _ pre =>
      obtain ⟨-, hrest⟩ := List.cons.inj h
      exact ih (show splitLines t = (first :: pre) ++ line :: post by rw [hl, hrest]; rfl)

/-- Full lines joined end a line, and have one line feed each. -/
theorem endsLine_flatten {ls : List Text} (h : ∀ line ∈ ls, IsFullLine line) :
    EndsLine ls.flatten ∧ ls.flatten.count '\n' = ls.length := by
  induction ls with
  | nil => exact ⟨endsLine_nil, rfl⟩
  | cons line ls ih =>
    obtain ⟨hend, hcount⟩ := ih fun l hl => h l (List.mem_cons_of_mem _ hl)
    obtain ⟨body, rfl, hbody⟩ := h line List.mem_cons_self
    rw [List.flatten_cons]
    refine ⟨(endsLine_newline body).append hend, ?_⟩
    have hbody : body.count '\n' = 0 := List.count_eq_zero.2 hbody
    simp [List.count_append, hbody, hcount]

/-- The lines in front of a line are full, so they end a line and hold one feed each. -/
theorem endsLine_of_splitLines {t : Text} {pre post : List Text} {line : Text}
    (h : splitLines t = pre ++ line :: post) :
    EndsLine pre.flatten ∧ pre.flatten.count '\n' = pre.length := by
  refine endsLine_flatten fun l hl => ?_
  -- A line may lack its feed only if no line follows it, and `line` follows this one.
  obtain ⟨before, after, rfl⟩ := List.append_of_mem hl
  rw [List.append_assoc, List.cons_append] at h
  rcases isFullLine_of_splitLines h with hfull | ⟨hnil, -⟩
  · exact hfull
  · simp at hnil

/-- The lines in front of a line are full lines. -/
theorem endsLine_take_splitLines {t : Text} {i : Nat} (h : i < (splitLines t).length) :
    EndsLine ((splitLines t).take i).flatten ∧
      ((splitLines t).take i).flatten.count '\n' = i := by
  have hsplit : splitLines t =
      (splitLines t).take i ++ (splitLines t)[i] :: (splitLines t).drop (i + 1) := by
    rw [← List.drop_eq_getElem_cons h, List.take_append_drop]
  obtain ⟨hend, hcount⟩ := endsLine_of_splitLines hsplit
  rw [List.length_take, Nat.min_eq_left (Nat.le_of_lt h)] at hcount
  exact ⟨hend, hcount⟩

/-- The pieces up to one place, and then those up to a later place, joined. -/
theorem flatten_take_append_drop_take (ls : List Text) {a b : Nat} (hab : a ≤ b) :
    (ls.take a).flatten ++ ((ls.take b).drop a).flatten = (ls.take b).flatten := by
  have hbefore : (ls.take b).take a = ls.take a := by
    rw [List.take_take, Nat.min_eq_left hab]
  rw [← hbefore, ← List.flatten_append, List.take_append_drop]

end Text

/-! ## Halving a list -/

/-- A property that is lost once along a list is lost for good, so halving can find where. -/
theorem initial_of_pairwise {β : Type} {l : List β} {q : β → Bool}
    (hq : l.Pairwise fun a b => q b = true → q a = true) :
    Initial (fun i => l[i]?.any q) l.length := by
  intro i j hij hj hp
  rcases Nat.eq_or_lt_of_le hij with rfl | hlt
  · exact hp
  · have hi : i < l.length := Nat.lt_trans hlt hj
    simp only [List.getElem?_eq_getElem hi, List.getElem?_eq_getElem hj, Option.any_some] at hp ⊢
    exact List.pairwise_iff_getElem.1 hq i j hi hj hlt hp

/-- Where a property, once lost, stays lost along a list, halving counts the elements that have
it. -/
theorem bisect_eq_countP {β : Type} {l : List β} {q : β → Bool}
    (hq : l.Pairwise fun a b => q b = true → q a = true) :
    bisect (fun i => l[i]?.any q) l.length = l.countP q := by
  have hinitial := initial_of_pairwise hq
  -- The elements in front of the place that halving finds have the property, the others do not.
  generalize hk : bisect (fun i => l[i]?.any q) l.length = k
  have hle : k ≤ l.length := hk ▸ bisect_le _ _
  have hbefore : (l.take k).countP q = k := by
    rw [List.countP_eq_length.2, List.length_take, Nat.min_eq_left hle]
    intro x hx
    obtain ⟨i, hi, rfl⟩ := List.mem_take_iff_getElem.1 hx
    have hp := of_lt_bisect hinitial (i := i) (by omega)
    simpa [List.getElem?_eq_getElem (show i < l.length by omega)] using hp
  have hafter : (l.drop k).countP q = 0 := by
    rw [List.countP_eq_zero]
    intro x hx
    obtain ⟨i, hi, rfl⟩ := List.mem_drop_iff_getElem.1 hx
    have hi : k + i < l.length := by omega
    have hp := not_of_bisect_le hinitial (i := k + i) (by omega) hi
    simpa [List.getElem?_eq_getElem hi] using hp
  rw [← List.take_append_drop k l, List.countP_append, hbefore, hafter, Nat.add_zero]

/-- The elements that have the property are those in front of the place that their number says. -/
theorem lt_countP_iff {β : Type} {l : List β} {q : β → Bool}
    (hq : l.Pairwise fun a b => q b = true → q a = true) {i : Nat} (hi : i < l.length) :
    i < l.countP q ↔ q l[i] = true := by
  rw [← bisect_eq_countP hq]
  have hany : l[i]?.any q = q l[i] := by rw [List.getElem?_eq_getElem hi, Option.any_some]
  constructor
  · intro hlt
    rw [← hany]
    exact of_lt_bisect (initial_of_pairwise hq) hlt
  · intro hp
    by_contra hge
    have hnot := not_of_bisect_le (initial_of_pairwise hq) (Nat.le_of_not_lt hge) hi
    rw [hany, hp] at hnot
    cases hnot

/-! ## The line index -/

namespace LineIndex

open Text

/-- Where the lines of a text start that begins at `offset`, with the line that a final line feed
opens. -/
private theorem starts_place (offset : Nat) {t : Text} (ht : t ≠ []) :
    (Line.place offset (splitLines t)).map (·.span.start) ++
        (if t.getLast? = some '\n' then [offset + byteSize t] else []) =
      offset :: (offsetsOf '\n' offset t).map (· + 1) := by
  induction t generalizing offset with
  | nil => exact absurd rfl ht
  | cons c t ih =>
    have hsize : offset + byteSize (c :: t) = offset + c.utf8Size + byteSize t := by
      rw [byteSize_cons, Nat.add_assoc]
    cases t with
    | nil =>
      by_cases hc : c = '\n'
      · subst hc
        rfl
      · simp [splitLines, Line.place, offsetsOf, hc]
    | cons d t =>
      have ih := ih (offset + c.utf8Size) (List.cons_ne_nil d t)
      rw [hsize, List.getLast?_cons_cons]
      by_cases hc : c = '\n'
      · -- The feed is a line of its own, and the next line starts after it.
        subst hc
        rw [splitLines, if_pos rfl, Line.place, offsetsOf, if_pos rfl, List.map_cons, List.map_cons,
          List.cons_append]
        exact congrArg (offset :: ·) ih
      · -- The first line only gets longer by `c`.
        obtain ⟨first, lines, hl⟩ : ∃ first lines, splitLines (d :: t) = first :: lines := by
          refine List.exists_cons_of_ne_nil fun hnil => ?_
          have hflat := flatten_splitLines (d :: t)
          rw [hnil] at hflat
          simp at hflat
        rw [hl, Line.place, List.map_cons, List.cons_append] at ih
        rw [splitLines, if_neg hc, hl]
        dsimp only
        rw [Line.place, offsetsOf, if_neg hc, List.map_cons, List.cons_append, byteSize_cons,
          ← Nat.add_assoc]
        exact congrArg (offset :: ·) (List.cons.inj ih).2

/-- A line starts at zero and behind each line feed. -/
theorem starts_ofText {t : Text} (ht : t ≠ []) :
    (ofText t).starts.toList = 0 :: (offsetsOf '\n' 0 t).map (· + 1) := by
  have h := starts_place 0 ht
  rw [Nat.zero_add] at h
  exact h

/-- A text has one line more than line feeds, unless it is empty. -/
theorem lineCount_ofText (t : Text) :
    (ofText t).lineCount = if t = [] then 0 else t.count '\n' + 1 := by
  split
  next h => rw [h]; rfl
  next h =>
    rw [lineCount, ← Array.length_toList, starts_ofText h, List.length_cons, List.length_map,
      length_offsetsOf]

/-- Lines start in order. -/
theorem pairwise_starts (t : Text) : (ofText t).starts.toList.Pairwise (· < ·) := by
  by_cases ht : t = []
  · rw [ht]
    exact List.Pairwise.nil
  · rw [starts_ofText ht]
    refine List.pairwise_cons.2 ⟨fun s hs => ?_, ?_⟩
    · obtain ⟨k, -, rfl⟩ := List.mem_map.1 hs
      exact Nat.succ_pos k
    · exact (pairwise_offsetsOf '\n' 0 t).map _ fun _ _ => Nat.succ_lt_succ

/-- The line of an offset is the number of line feeds in front of it. -/
theorem lineOf_eq_countP (t : Text) (offset : Nat) :
    (ofText t).lineOf offset = (offsetsOf '\n' 0 t).countP (· < offset) := by
  have hsorted : (ofText t).starts.toList.Pairwise fun a b =>
      decide (b ≤ offset) = true → decide (a ≤ offset) = true :=
    (pairwise_starts t).imp fun hab => by simp only [decide_eq_true_iff]; omega
  have hbisect := bisect_eq_countP hsorted
  rw [Array.length_toList] at hbisect
  have hby : (ofText t).startsBy offset =
      fun i => (ofText t).starts.toList[i]?.any (· ≤ offset) := by
    funext i
    rw [startsBy, Array.getElem?_toList]
  rw [lineOf, hby, hbisect]
  by_cases ht : t = []
  · rw [ht]
    rfl
  · -- Line 0 starts in front of every offset, and any other line right after a feed.
    rw [starts_ofText ht, List.countP_cons_of_pos (by simp), Nat.add_sub_cancel, List.countP_map]
    rfl

/-- Later offsets are on later lines or on the same one. -/
theorem lineOf_mono (t : Text) : Monotone (ofText t).lineOf := by
  intro a b hab
  rw [lineOf_eq_countP, lineOf_eq_countP]
  refine List.countP_mono_left fun k _ hk => ?_
  simp only [decide_eq_true_iff] at hk ⊢
  omega

/-- There are no more lines to go than line feeds. -/
theorem lineOf_le_count (t : Text) (offset : Nat) : (ofText t).lineOf offset ≤ t.count '\n' := by
  rw [lineOf_eq_countP, ← length_offsetsOf '\n' 0 t]
  exact List.countP_le_length

/-- The line of an offset between characters is the number of line feeds in the text before it. -/
theorem lineOf_byteSize (a b : Text) : (ofText (a ++ b)).lineOf (byteSize a) = a.count '\n' := by
  rw [lineOf_eq_countP, countP_offsetsOf_append]

/-- A part that ends a line ends where the line starts that its line feeds count. -/
private theorem getElem?_feedEnds (offset : Nat) {u : Text} (hu : EndsLine u) (v : Text) :
    (offset :: (offsetsOf '\n' offset (u ++ v)).map (· + 1))[u.count '\n']? =
      some (offset + byteSize u) := by
  -- The induction goes over `u`; the offset moves on with every character.
  induction u generalizing offset with
  | nil => rfl
  | cons c u ih =>
    have ih := ih (offset + c.utf8Size) hu.of_cons
    by_cases hc : c = '\n'
    · subst hc
      rw [List.count_cons_self, List.getElem?_cons_succ, List.cons_append, offsetsOf, if_pos rfl,
        List.map_cons, byteSize_cons, ← Nat.add_assoc]
      exact ih
    · -- There is a feed in `u`, so the line looked for is not the one that `c` is on.
      obtain ⟨k, hk⟩ : ∃ k, u.count '\n' = k + 1 := by
        have hmem : '\n' ∈ u := by
          rcases hu.of_cons with hnil | hlast
          · exact absurd hnil (hu.ne_nil_of_cons hc)
          · exact List.mem_of_getLast? hlast
        exact Nat.exists_eq_add_of_lt (List.count_pos_iff.2 hmem) |>.imp fun k hk => by omega
      rw [hk, List.getElem?_cons_succ] at ih
      rw [List.count_cons_of_ne hc, hk, List.getElem?_cons_succ, List.cons_append, offsetsOf,
        if_neg hc, byteSize_cons, ← Nat.add_assoc]
      exact ih

/-- Behind a text that ends a line, a line starts. -/
theorem startOf_count {u : Text} (hu : EndsLine u) (v : Text) :
    (ofText (u ++ v)).startOf (u.count '\n') = byteSize u := by
  by_cases ht : u ++ v = []
  · obtain ⟨rfl, rfl⟩ := List.append_eq_nil_iff.1 ht
    rfl
  · rw [startOf, ← Array.getElem?_toList, starts_ofText ht, getElem?_feedEnds 0 hu v, Nat.zero_add]
    rfl

/-- What would come after the last line starts at the end. -/
theorem startOf_of_lineCount_le {t : Text} {line : Nat} (h : (ofText t).lineCount ≤ line) :
    (ofText t).startOf line = byteSize t := by
  rw [startOf, Array.getElem?_eq_none h]
  rfl

/-- A line starts where the lines in front of it end; lines past the last one start at the end. -/
theorem startOf_eq_byteSize (t : Text) (line : Nat) :
    (ofText t).startOf line = byteSize ((splitLines t).take line).flatten := by
  -- The geometry may have one line more than the text is split into: the one that a final line feed
  -- opens.
  rcases Nat.lt_or_ge line (splitLines t).length with hlt | hge
  · obtain ⟨hend, hcount⟩ := endsLine_take_splitLines hlt
    have h := startOf_count hend ((splitLines t).drop line).flatten
    rwa [← List.flatten_append, List.take_append_drop, flatten_splitLines, hcount] at h
  · rw [List.take_of_length_le hge, flatten_splitLines]
    rcases List.eq_nil_or_concat (splitLines t) with hnil | ⟨pre, last, hl⟩
    · have ht : t = [] := by rw [← flatten_splitLines t, hnil]; rfl
      subst ht
      exact startOf_of_lineCount_le (Nat.zero_le _)
    · rw [List.concat_eq_append] at hl
      have hjoin : pre.flatten ++ last = t := by
        rw [← flatten_splitLines t, hl]
        simp
      have hlen : (splitLines t).length = pre.length + 1 := by rw [hl]; simp
      obtain ⟨hend, hcount⟩ := endsLine_of_splitLines hl
      have ht : t ≠ [] := by
        rintro rfl
        simp [splitLines] at hlen
      rcases isFullLine_of_splitLines hl with ⟨body, rfl, hbody⟩ | ⟨-, hlast⟩
      · -- The text ends with a feed, which opens a line where the text ends.
        have htEnd : EndsLine t := hjoin ▸ hend.append (endsLine_newline body)
        have htCount : t.count '\n' = pre.length + 1 := by
          rw [← hjoin, List.count_append, hcount, List.count_append,
            List.count_eq_zero.2 hbody]
          rfl
        rcases Nat.eq_or_lt_of_le (hlen ▸ hge) with rfl | hgt
        · have h := startOf_count htEnd []
          rwa [List.append_nil, htCount] at h
        · refine startOf_of_lineCount_le ?_
          rw [lineCount_ofText, if_neg ht, htCount]
          exact hgt
      · -- The last line lacks the feed, so there is no line after it.
        refine startOf_of_lineCount_le ?_
        rw [lineCount_ofText, if_neg ht, ← hjoin, List.count_append, hcount,
          List.count_eq_zero.2 hlast, ← hlen]
        exact hge

/-- The text between the starts of two lines is that of the lines from the one to the other. -/
theorem slice?_lines (t : Text) {a b : Nat} (hab : a ≤ b) :
    slice? ((ofText t).startOf a) ((ofText t).startOf b) t =
      some (((splitLines t).take b).drop a).flatten := by
  have hupto := flatten_take_append_drop_take (splitLines t) hab
  have hall : ((splitLines t).take b).flatten ++ ((splitLines t).drop b).flatten = t := by
    rw [← List.flatten_append, List.take_append_drop, flatten_splitLines]
  have h := slice?_append ((splitLines t).take a).flatten (((splitLines t).take b).drop a).flatten
    ((splitLines t).drop b).flatten
  rwa [← byteSize_append, hupto, hall, ← startOf_eq_byteSize, ← startOf_eq_byteSize] at h

/-- The line of an offset starts after the last line feed in front of it. -/
theorem startOf_lineOf_byteSize (a b : Text) :
    (ofText (a ++ b)).startOf ((ofText (a ++ b)).lineOf (byteSize a)) =
      byteSize (wholeLines a) := by
  have h := startOf_count (endsLine_wholeLines a) (lastLine a ++ b)
  rwa [← List.append_assoc, wholeLines_append_lastLine, count_wholeLines,
    ← lineOf_byteSize a b] at h

/-- The text from the start of an offset's line up to the offset is what follows the last line feed
in front of it. -/
theorem slice?_lineStart (a b : Text) :
    slice? ((ofText (a ++ b)).startOf ((ofText (a ++ b)).lineOf (byteSize a))) (byteSize a)
      (a ++ b) = some (lastLine a) := by
  have h := slice?_append (wholeLines a) (lastLine a) b
  rwa [← byteSize_append, wholeLines_append_lastLine, ← startOf_lineOf_byteSize a b] at h

end LineIndex

/-! ## Numbered lines -/

/-- Each line lies behind all lines in front of it. -/
theorem Line.getElem?_place_eq_some_iff {offset i : Nat} {ts : List Text} {line : Line} :
    (place offset ts)[i]? = some line ↔
      ts[i]? = some line.text ∧
        line.span.start = offset + Text.byteSize (ts.take i).flatten ∧
        line.span.stop = line.span.start + Text.byteSize line.text := by
  induction ts generalizing offset i with
  | nil => simp [place]
  | cons t ts ih =>
    cases i with
    | zero =>
      constructor
      · intro h
        obtain rfl := Option.some.inj h
        exact ⟨rfl, rfl, rfl⟩
      · rintro ⟨htext, hstart, hstop⟩
        obtain ⟨⟨start, stop⟩, text⟩ := line
        obtain rfl : t = text := Option.some.inj htext
        obtain rfl : start = offset := hstart
        obtain rfl : stop = start + Text.byteSize t := hstop
        rfl
    | succ i =>
      rw [place, List.getElem?_cons_succ, ih]
      simp [Nat.add_assoc]

namespace Document

open Text

/-- Line `i` starts where the geometry says, and its start is on line `i`. -/
theorem line_start {doc : Document} {i : Nat} {line : Line} (h : doc.lines[i]? = some line) :
    line.span.start = doc.metrics.startOf i ∧ doc.metrics.lineOf line.span.start = i := by
  rw [doc.eq_ofText] at h ⊢
  generalize doc.text = t at h ⊢
  obtain ⟨htext, hstart, -⟩ := Line.getElem?_place_eq_some_iff.1 h
  rw [Nat.zero_add] at hstart
  change (splitLines t)[i]? = some line.text at htext
  refine ⟨hstart.trans (LineIndex.startOf_eq_byteSize t i).symm, ?_⟩
  -- The lines in front of it hold one feed each.
  have hcount := (endsLine_take_splitLines (List.getElem?_eq_some_iff.1 htext).1).2
  have hline := LineIndex.lineOf_byteSize ((splitLines t).take i).flatten
    ((splitLines t).drop i).flatten
  rw [← List.flatten_append, List.take_append_drop, flatten_splitLines, hcount] at hline
  rw [hstart]
  exact hline

/-- A line's text among those of all lines. -/
theorem splitLines_of_line {doc : Document} {i : Nat} {line : Line}
    (h : doc.lines[i]? = some line) :
    splitLines doc.text =
      (splitLines doc.text).take i ++ line.text :: (splitLines doc.text).drop (i + 1) := by
  obtain ⟨htext, -⟩ := Line.getElem?_place_eq_some_iff.1 h
  obtain ⟨hi, hget⟩ := List.getElem?_eq_some_iff.1 htext
  rw [← hget, ← List.drop_eq_getElem_cons hi, List.take_append_drop]

/-- Only the last line may lack the line feed, and none has another one. -/
theorem isFullLine_of_line {doc : Document} {i : Nat} {line : Line}
    (h : doc.lines[i]? = some line) :
    IsFullLine line.text ∨ i + 1 = doc.lines.length ∧ '\n' ∉ line.text := by
  refine (isFullLine_of_splitLines (splitLines_of_line h)).imp_right fun ⟨hpost, hnone⟩ => ?_
  have hlength : doc.lines.length = (splitLines doc.text).length := by
    rw [← Line.map_text_place 0 (splitLines doc.text), List.length_map]
    rfl
  have hi := (List.getElem?_eq_some_iff.1 h).1
  rw [List.drop_eq_nil_iff] at hpost
  exact ⟨by omega, hnone⟩

/-- Up to the line after the last one, the lines are the whole text. -/
theorem flatten_take_endLine (t : Text) :
    ((splitLines t).take (ofText t).metrics.endLine).flatten = t := by
  have hsize := LineIndex.startOf_of_lineCount_le
    (show (LineIndex.ofText t).lineCount ≤ (ofText t).metrics.endLine from Nat.le_max_left _ _)
  rw [LineIndex.startOf_eq_byteSize] at hsize
  have hall : ((splitLines t).take (ofText t).metrics.endLine).flatten ++
      ((splitLines t).drop (ofText t).metrics.endLine).flatten = t := by
    rw [← List.flatten_append, List.take_append_drop, flatten_splitLines]
  -- Nothing is left over, since the first part has all the bytes already.
  have hrest : byteSize ((splitLines t).drop (ofText t).metrics.endLine).flatten = 0 := by
    have := congrArg byteSize hall
    rw [byteSize_append, hsize] at this
    omega
  rw [byteSize_eq_zero_iff.1 hrest, List.append_nil] at hall
  exact hall

end Document

end NotebookLayout
