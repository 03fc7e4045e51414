import NotebookLayout.Proofs.Document.Lines
import NotebookLayout.Proofs.Token.Tokens

/-!
# The line geometry of a text

The bytes of a text's line feeds tell how many lines there are, where they start and which one an
offset is on:

- `bytes`: the encoded text, in which only line feeds have the byte of a line feed
  (`count_take_bytes`);
- `lineOf_eq_count_bytes`: the line of an offset counts the feed bytes in front of it;
- `startOf_le_iff`: a line starts at an offset or before it just if the offset is on that line or a
  later one;
- `lineOf_startOf`: a line starts on itself;
- `tiles_lines`: lines are side by side and not empty;
- `metrics_ofText`: what all this says of the geometry of a text.
-/

namespace NotebookLayout

/-! ## Bytes -/

namespace Text

/-- The bytes of the UTF-8 encoding. -/
def bytes (t : Text) : List UInt8 := t.flatMap String.utf8EncodeChar

/-- The byte of a line feed. -/
def feedByte : UInt8 := 10

theorem bytes_cons (c : Char) (t : Text) : bytes (c :: t) = String.utf8EncodeChar c ++ bytes t :=
  List.flatMap_cons

/-- The bytes of a text are counted rightly. -/
theorem length_bytes (t : Text) : (bytes t).length = byteSize t := by
  induction t with
  | nil => rfl
  | cons c t ih =>
    rw [bytes_cons, List.length_append, String.length_utf8EncodeChar, ih, byteSize_cons]

/-- Any other number below 256 gives another byte. -/
theorem ofNat_ne_feedByte {n : Nat} (hlt : n < 256) (hn : n ≠ 10) : feedByte ≠ UInt8.ofNat n := by
  intro heq
  have h := congrArg UInt8.toNat heq
  rw [UInt8.toNat_ofNat', Nat.mod_eq_of_lt hlt] at h
  exact hn h.symm

/-- No other character is encoded with the byte of a line feed. -/
theorem feedByte_notMem_utf8EncodeChar {c : Char} (hc : c ≠ '\n') :
    feedByte ∉ String.utf8EncodeChar c := by
  -- Every byte of a longer encoding has its high bit set.
  have hhigh : ∀ n, 128 ≤ n → n < 256 → feedByte ≠ UInt8.ofNat n := fun n hle hlt =>
    ofNat_ne_feedByte hlt (by omega)
  fun_cases String.utf8EncodeChar c with
  | case1 v hv =>
    rw [List.mem_singleton]
    exact ofNat_ne_feedByte (by omega) fun h => hc (Char.ext (UInt32.toNat_inj.1 h))
  | case2 v =>
    simp only [List.mem_cons, List.not_mem_nil, or_false, not_or]
    exact ⟨hhigh _ (by omega) (by omega), hhigh _ (by omega) (by omega)⟩
  | case3 v =>
    simp only [List.mem_cons, List.not_mem_nil, or_false, not_or]
    exact ⟨hhigh _ (by omega) (by omega), hhigh _ (by omega) (by omega),
      hhigh _ (by omega) (by omega)⟩
  | case4 v =>
    simp only [List.mem_cons, List.not_mem_nil, or_false, not_or]
    exact ⟨hhigh _ (by omega) (by omega), hhigh _ (by omega) (by omega),
      hhigh _ (by omega) (by omega), hhigh _ (by omega) (by omega)⟩

/-- The line feeds that stand in front of an offset are the feed bytes up to there. -/
theorem count_take_bytes (offset n : Nat) (t : Text) :
    ((bytes t).take n).count feedByte = (offsetsOf '\n' offset t).countP (· < offset + n) := by
  induction t generalizing offset n with
  | nil => simp [bytes, offsetsOf]
  | cons c t ih =>
    have hlength := String.length_utf8EncodeChar c
    -- Whatever comes after `c` begins at `offset + c.utf8Size`.
    have hrest : ((bytes t).take (n - c.utf8Size)).count feedByte =
        (offsetsOf '\n' (offset + c.utf8Size) t).countP (· < offset + n) := by
      rcases Nat.le_total c.utf8Size n with hle | hle
      · rw [ih (offset + c.utf8Size), Nat.add_assoc, Nat.add_sub_cancel' hle]
      · rw [Nat.sub_eq_zero_of_le hle, List.take_zero, List.count_nil, eq_comm, List.countP_eq_zero]
        intro k hk
        have := (bounds_of_mem_offsetsOf hk).1
        simp only [decide_eq_true_iff]
        omega
    rw [bytes_cons, List.take_append, List.count_append, hlength, hrest, offsetsOf]
    by_cases hc : c = '\n'
    · subst hc
      rw [if_pos rfl, List.countP_cons, Nat.add_comm]
      congr 1
      cases n with
      | zero => simp
      | succ n => simp [feedByte, String.utf8EncodeChar]
    · rw [if_neg hc, List.count_eq_zero.2 fun h =>
        feedByte_notMem_utf8EncodeChar hc (List.mem_of_mem_take h), Nat.zero_add]

end Text

open Text

/-! ## Lines and offsets -/

namespace LineIndex

/-- The line of an offset counts the feed bytes in front of it. -/
theorem lineOf_eq_count_bytes (t : Text) (offset : Nat) :
    (ofText t).lineOf offset = ((bytes t).take offset).count feedByte := by
  rw [lineOf_eq_countP, count_take_bytes 0, Nat.zero_add]

/-- The first line starts at the start of the text, and every other one right after a line feed. -/
theorem startOf_succ {t : Text} {i : Nat} (hi : i < (offsetsOf '\n' 0 t).length) :
    (ofText t).startOf (i + 1) = (offsetsOf '\n' 0 t)[i] + 1 := by
  have ht : t ≠ [] := by
    rintro rfl
    simp [offsetsOf] at hi
  rw [startOf, ← Array.getElem?_toList, starts_ofText ht, List.getElem?_cons_succ,
    List.getElem?_map, List.getElem?_eq_getElem hi]
  rfl

/-- The first line starts with the text. -/
theorem startOf_zero (t : Text) : (ofText t).startOf 0 = 0 := startOf_count endsLine_nil t

/-- A line starts at an offset or before it just if the offset is on that line or a later one. -/
theorem startOf_le_iff {t : Text} {line : Nat} (h : line < (ofText t).lineCount) (offset : Nat) :
    (ofText t).startOf line ≤ offset ↔ line ≤ (ofText t).lineOf offset := by
  rw [lineOf_eq_countP]
  cases line with
  | zero =>
    rw [startOf_zero]
    exact iff_of_true (Nat.zero_le _) (Nat.zero_le _)
  | succ i =>
    -- The line starts after feed `i`, which is in front of the offset if more than `i` feeds are.
    have hi : i < (offsetsOf '\n' 0 t).length := by
      rw [lineCount_ofText] at h
      rw [length_offsetsOf]
      split at h
      next => exact absurd h (Nat.not_lt_zero _)
      next => exact Nat.lt_of_succ_lt_succ h
    have hsorted : (offsetsOf '\n' 0 t).Pairwise fun a b =>
        decide (b < offset) = true → decide (a < offset) = true :=
      (pairwise_offsetsOf '\n' 0 t).imp fun hab => by
        simp only [decide_eq_true_iff]
        exact Nat.lt_trans hab
    rw [startOf_succ hi, Nat.succ_le_iff, Nat.succ_le_iff, lt_countP_iff hsorted hi,
      decide_eq_true_iff]

/-- Later lines start later. -/
theorem startOf_lt_startOf {t : Text} {line other : Nat} (hlt : line < other)
    (h : other < (ofText t).lineCount) : (ofText t).startOf line < (ofText t).startOf other := by
  have hline : line < (ofText t).lineCount := Nat.lt_trans hlt h
  have hsorted := List.pairwise_iff_getElem.1 (pairwise_starts t) line other
    (by rwa [Array.length_toList]) (by rwa [Array.length_toList]) hlt
  rw [startOf, startOf, Array.getElem?_eq_getElem hline, Array.getElem?_eq_getElem h]
  exact hsorted

/-- A line starts on itself. -/
theorem lineOf_startOf {t : Text} {line : Nat} (h : line < (ofText t).lineCount) :
    (ofText t).lineOf ((ofText t).startOf line) = line := by
  apply Nat.le_antisymm
  · by_contra hlt
    rw [Nat.not_le] at hlt
    -- Otherwise the next line would start no later.
    have hnext : line + 1 < (ofText t).lineCount := by
      have hle := lineOf_le_count t ((ofText t).startOf line)
      rw [lineCount_ofText] at h ⊢
      split at h
      next => exact absurd h (Nat.not_lt_zero _)
      next ht =>
        rw [if_neg ht]
        omega
    have hle := (startOf_le_iff hnext _).2 hlt
    exact Nat.not_lt_of_le hle (startOf_lt_startOf (Nat.lt_succ_self line) hnext)
  · exact (startOf_le_iff h _).1 (Nat.le_refl _)

end LineIndex

/-! ## Lines side by side -/

/-- Lines that are placed one behind the other lie side by side. -/
theorem Line.tiles_place (offset : Nat) {ts : List Text} (h : ∀ t ∈ ts, t ≠ []) :
    Span.Tiles offset (offset + byteSize ts.flatten) ((place offset ts).map (·.span)) := by
  induction ts generalizing offset with
  | nil => rfl
  | cons t ts ih =>
    have hrest := ih (offset + byteSize t) fun u hu => h u (List.mem_cons_of_mem t hu)
    exact .cons (h t List.mem_cons_self) hrest

namespace Document

/-- The lines of a document lie side by side from its start to its end. -/
theorem tiles_lines (doc : Document) : Span.Tiles 0 doc.size (doc.lines.map (·.span)) := by
  have htiles := Line.tiles_place 0 fun u (hu : u ∈ splitLines doc.text) =>
    Text.ne_nil_of_mem_splitLines hu
  rw [Nat.zero_add, flatten_splitLines] at htiles
  exact htiles

/-- A line has the text at its place, and no line feed but the one that ends it. -/
theorem slice?_line {doc : Document} {i : Nat} {line : Line} (h : doc.lines[i]? = some line) :
    doc.slice? line.span = some line.text ∧ (IsFullLine line.text ∨ '\n' ∉ line.text) := by
  obtain ⟨-, hstart, hstop⟩ := Line.getElem?_place_eq_some_iff.1 h
  refine ⟨?_, (isFullLine_of_line h).imp_right And.right⟩
  -- The text is what the lines in front, the line and the lines after it are together.
  have hjoin : doc.text = ((splitLines doc.text).take i).flatten ++ line.text ++
      ((splitLines doc.text).drop (i + 1)).flatten := by
    conv_lhs => rw [← flatten_splitLines doc.text, splitLines_of_line h]
    rw [List.flatten_append, List.flatten_cons, List.append_assoc]
  have hslice := slice?_append ((splitLines doc.text).take i).flatten line.text
    ((splitLines doc.text).drop (i + 1)).flatten
  rw [← hjoin] at hslice
  rw [Nat.zero_add] at hstart
  rw [slice?, hstop, hstart]
  exact hslice

/-- The line of an offset counts the line feeds in front of the offset, and there is one line more
than line feeds, or none in an empty text. A line starts on itself, and no later than just the
offsets on it and on later lines; what would come after the last line starts at the end. The lines
are side by side from start to end, none is empty, and each has the text at its place, holds no line
feed but the one that ends it, and starts where the geometry says. -/
theorem metrics_ofText (t : Text) :
    let doc := ofText t
    (∀ offset, doc.metrics.lineOf offset =
      ((bytes t).take (min offset doc.size)).count feedByte) ∧
      doc.metrics.lineCount = (if t = [] then 0 else 1 + t.count '\n') ∧
      (∀ line < doc.metrics.lineCount,
        doc.metrics.lineOf (doc.metrics.startOf line) = line ∧
          ∀ offset, doc.metrics.startOf line ≤ offset ↔ line ≤ doc.metrics.lineOf offset) ∧
      (∀ line, doc.metrics.lineCount ≤ line → doc.metrics.startOf line = doc.size) ∧
      Span.Tiles 0 doc.size (doc.lines.map (·.span)) ∧
      ∀ i line, doc.lines[i]? = some line →
        doc.slice? line.span = some line.text ∧ (IsFullLine line.text ∨ '\n' ∉ line.text) ∧
          line.span.start = doc.metrics.startOf i := by
  intro doc
  refine ⟨?lineOf, ?count, ?starts, ?past, doc.tiles_lines, ?lines⟩
  case lineOf =>
    intro offset
    have hsize : doc.size = (bytes t).length := (length_bytes t).symm
    rw [hsize, ← List.take_eq_take_min]
    exact LineIndex.lineOf_eq_count_bytes t offset
  case count =>
    rw [Nat.add_comm]
    exact LineIndex.lineCount_ofText t
  case starts =>
    exact fun line h => ⟨LineIndex.lineOf_startOf h, LineIndex.startOf_le_iff h⟩
  case past => exact fun line h => LineIndex.startOf_of_lineCount_le h
  case lines =>
    intro i line h
    obtain ⟨hslice, hfeeds⟩ := slice?_line h
    exact ⟨hslice, hfeeds, (line_start h).1⟩

/-- Both kinds of line ends, an empty line, a character of two bytes, and a line feed at the end,
which opens one more line. -/
theorem metrics_ofText_mixed :
    let t := "a\r\n\nö\n".toList
    let doc := ofText t
    -- Offset 5 is inside the character.
    doc.metrics.lineOf 5 = ((bytes t).take 5).count feedByte ∧ doc.metrics.lineOf 5 = 2 ∧
      doc.metrics.lineCount = 4 ∧ 3 < doc.metrics.lineCount ∧
      doc.metrics.lineOf (doc.metrics.startOf 3) = 3 ∧
      (doc.metrics.startOf 3 ≤ 5 ↔ 3 ≤ doc.metrics.lineOf 5) ∧ doc.metrics.startOf 3 = 7 ∧
      doc.metrics.lineCount ≤ 9 ∧ doc.metrics.startOf 9 = doc.size ∧
      ∃ line, doc.lines[2]? = some line ∧ line.span = ⟨4, 7⟩ ∧
        doc.slice? ⟨4, 7⟩ = some line.text ∧ line.span.start = doc.metrics.startOf 2 := by
  intro t doc
  obtain ⟨hlineOf, hcount, hstarts, hpast, -, hlines⟩ := metrics_ofText t
  have hcount : doc.metrics.lineCount = 4 := hcount.trans (by decide)
  have hline : 3 < doc.metrics.lineCount := by omega
  have hbeyond : doc.metrics.lineCount ≤ 9 := by omega
  obtain ⟨line, hline2, hspan⟩ : ∃ line, doc.lines[2]? = some line ∧ line.span = ⟨4, 7⟩ :=
    Option.map_eq_some_iff.1 (show doc.lines[2]?.map (·.span) = some ⟨4, 7⟩ by decide)
  obtain ⟨hslice, -, hstart⟩ := hlines 2 line hline2
  exact ⟨hlineOf 5, (hlineOf 5).trans (by decide), hcount, hline, (hstarts 3 hline).1,
    (hstarts 3 hline).2 5, by decide +kernel, hbeyond, hpast 9 hbeyond, line, hline2, hspan,
    hspan ▸ hslice, hstart⟩

end Document

end NotebookLayout
