import NotebookLayout.Proofs.Cell.Split

/-!
# The ends of lines

A line ends with a line feed, which may have a carriage return in front of it, or with the document.
The content of a line leaves out more than that end: it does without any carriage return that comes
right in front of it, too.

- `Line.terminator`, `Line.strayReturns`: the end of a line, and the carriage returns in front of
  it;
- `Line.text_eq_content_append`: the content is what comes in front of these;
- `Line.strayReturns_eq_nil_iff`: when there are none, so that the content leaves out the end alone;
- `Document.exists_line_of_mem_cellMarkers`: a marker is as long as the content of its line;
- `Document.lines_content`: what this says of the lines of a document and of its markers.
-/

namespace NotebookLayout

open Text

namespace Line

/-- The end of a line: a line feed, with the carriage return right in front of it if there is one. A
line that does not end with a line feed has none. -/
def terminator (line : Line) : Text :=
  if ['\r', '\n'] <:+ line.text then ['\r', '\n']
  else if ['\n'] <:+ line.text then ['\n']
  else []

/-- The line without its end. -/
def body (line : Line) : Text := line.text.rdrop line.terminator.length

/-- The carriage returns that come right in front of the end and are no part of it. -/
def strayReturns (line : Line) : Text := takeEndWhile (· = '\r') line.body

/-! ## The end of a line -/

/-- The end of a line stands at its end. -/
theorem terminator_isSuffix (line : Line) : line.terminator <:+ line.text := by
  unfold terminator
  split
  next h => exact h
  next =>
    split
    next h => exact h
    next => exact List.nil_suffix

/-- A line is its body and its end. -/
theorem body_append_terminator (line : Line) : line.body ++ line.terminator = line.text := by
  obtain ⟨front, hfront⟩ := line.terminator_isSuffix
  rw [body, ← hfront, List.rdrop_append_length]

/-- Only carriage returns and line feeds end lines. -/
theorem eq_of_mem_terminator {line : Line} {c : Char} (h : c ∈ line.terminator) :
    c = '\r' ∨ c = '\n' := by
  unfold terminator at h
  split at h
  next => simpa using h
  next =>
    split at h
    next => exact Or.inr (by simpa using h)
    next => simp at h

/-- A line with a line feed at its end has one of two ends. -/
theorem terminator_of_isFullLine {line : Line} (h : IsFullLine line.text) :
    line.terminator = ['\r', '\n'] ∨ line.terminator = ['\n'] := by
  obtain ⟨front, hfront, -⟩ := h
  unfold terminator
  split
  next => exact Or.inl rfl
  next =>
    rw [if_pos ⟨front, hfront.symm⟩]
    exact Or.inr rfl

/-- A line without a line feed has no end. -/
theorem terminator_of_notMem {line : Line} (h : '\n' ∉ line.text) : line.terminator = [] := by
  unfold terminator
  rw [if_neg fun hsuffix => h (hsuffix.mem (by simp)),
    if_neg fun hsuffix => h (hsuffix.mem (by simp))]

/-! ## Carriage returns in front of it -/

/-- Stray returns are carriage returns. -/
theorem eq_of_mem_strayReturns {line : Line} {c : Char} (h : c ∈ line.strayReturns) : c = '\r' := by
  simpa using List.mem_rtakeWhile_imp h

/-- There are none just if the body does not end in one. -/
theorem strayReturns_eq_nil_iff (line : Line) :
    line.strayReturns = [] ↔ line.body.getLast? ≠ some '\r' := by
  refine List.rtakeWhile_eq_nil_iff.trans ?_
  cases h : line.body.getLast? with
  | none => simp [List.getLast?_eq_none_iff.1 h]
  | some c =>
    obtain ⟨front, hfront⟩ := List.getLast?_eq_some_iff.1 h
    simp [hfront]

section

variable {line : Line} (hline : IsFullLine line.text ∨ '\n' ∉ line.text)

include hline

/-- The one line feed of a line belongs to its end. -/
theorem newline_notMem_body : '\n' ∉ line.body := by
  have htext := line.body_append_terminator
  rcases hline with hfull | hnone
  · -- What the end has in front of its line feed is as free of feeds as the body.
    obtain ⟨v, hv⟩ : ∃ v, line.terminator = v ++ ['\n'] := by
      rcases terminator_of_isFullLine hfull with h | h
      · exact ⟨['\r'], h⟩
      · exact ⟨[], h⟩
    obtain ⟨front, hfront, hnone⟩ := hfull
    rw [hv, hfront, ← List.append_assoc, List.append_left_inj] at htext
    rw [← htext] at hnone
    exact fun hmem => hnone (List.mem_append_left v hmem)
  · rw [← htext] at hnone
    exact fun hmem => hnone (List.mem_append_left _ hmem)

/-- Line feeds and carriage returns are trimmed alike, but in front of the end there are only
carriage returns to trim. -/
theorem content_eq_dropEndWhile : line.content = dropEndWhile (· = '\r') line.body := by
  obtain ⟨stray, hbody, hstray, hlast⟩ :=
    dropEndWhile_eq_iff.1 (Eq.refl (dropEndWhile (· = '\r') line.body))
  refine MarkerLine.content_eq_iff.2 ⟨stray ++ line.terminator, ?_, fun c hc => ?_, fun c hc => ?_⟩
  · rw [← List.append_assoc, ← hbody, body_append_terminator]
  · rcases List.mem_append.1 hc with hc | hc
    · exact Or.inl (by simpa using hstray c hc)
    · exact eq_of_mem_terminator hc
  · refine ⟨by simpa using hlast c hc, ?_⟩
    rintro rfl
    -- A line feed left at the end would be one in the body.
    refine newline_notMem_body hline ?_
    rw [hbody]
    exact List.mem_append_left _ (List.mem_of_getLast? hc)

/-- The content lacks the stray returns of the body. -/
theorem content_append_strayReturns : line.content ++ line.strayReturns = line.body := by
  rw [content_eq_dropEndWhile hline]
  exact dropEndWhile_append_takeEndWhile _ _

/-- A line is its content, its stray returns and its end. -/
theorem text_eq_content_append :
    line.text = line.content ++ line.strayReturns ++ line.terminator := by
  rw [content_append_strayReturns hline, body_append_terminator]

end

end Line

/-! ## Lines and markers of a document -/

namespace Document

open MarkerLine Line

/-- A marker is at the start of its line, and as long as the line's content. -/
theorem exists_line_of_mem_cellMarkers {doc : Document} {marker : Text} {m : Marker Attributes}
    (h : m ∈ doc.cellMarkers marker) :
    ∃ line, doc.lines[doc.metrics.lineOf m.offset]? = some line ∧
      m.offset = line.span.start ∧ m.length = byteSize line.content := by
  obtain ⟨k, hk⟩ := List.getElem?_of_mem h
  obtain ⟨line, ml, hline, hml, rfl⟩ := exists_line_of_cellMarkers hk
  obtain ⟨rest, -, -, rfl⟩ := ofLine?_eq_some_iff.1 hml
  refine ⟨line, hline, rfl, ?_⟩
  simp [toMarker, ofRest, Span.size]

/-- A line is its content, any carriage returns that come right in front of its end, and that end,
which only the last line may lack. So the content leaves out the end alone, and a marker is as long
as its line without the end, just if no carriage return comes right in front of the end. -/
theorem lines_content (doc : Document) (marker : Text) :
    (∀ i line, doc.lines[i]? = some line →
      line.text = line.content ++ line.strayReturns ++ line.terminator ∧
      (∀ c ∈ line.strayReturns, c = '\r') ∧ line.content.getLast? ≠ some '\r' ∧
      (line.terminator = ['\r', '\n'] ∨ line.terminator = ['\n'] ∨
        line.terminator = [] ∧ i + 1 = doc.lines.length ∧ '\n' ∉ line.text) ∧
      (line.text = line.content ++ line.terminator ↔ line.body.getLast? ≠ some '\r')) ∧
    ∀ m ∈ doc.cellMarkers marker, ∃ line,
      doc.lines[doc.metrics.lineOf m.offset]? = some line ∧ m.offset = line.span.start ∧
      m.length + byteSize line.strayReturns + byteSize line.terminator = byteSize line.text ∧
      (m.length + byteSize line.terminator = byteSize line.text ↔
        line.body.getLast? ≠ some '\r') := by
  constructor
  · intro i line hi
    have hends := isFullLine_of_line hi
    have htext := text_eq_content_append (hends.imp_right And.right)
    refine ⟨htext, fun c hc => eq_of_mem_strayReturns hc, ?_, ?_, ?_⟩
    · -- Trimming does not stop at a carriage return.
      obtain ⟨_, -, -, hlast⟩ := content_eq_iff.1 (Eq.refl line.content)
      exact fun h => (hlast _ h).1 rfl
    · rcases hends with hfull | ⟨hlast, hnone⟩
      · exact (terminator_of_isFullLine hfull).imp_right Or.inl
      · exact Or.inr (Or.inr ⟨terminator_of_notMem hnone, hlast, hnone⟩)
    · rw [← strayReturns_eq_nil_iff, htext]
      simp
  · intro m hm
    obtain ⟨line, hget, hoffset, hlength⟩ := exists_line_of_mem_cellMarkers hm
    have hline := (isFullLine_of_line hget).imp_right And.right
    have hsize := congrArg byteSize (text_eq_content_append hline)
    rw [byteSize_append, byteSize_append, ← hlength] at hsize
    refine ⟨line, hget, hoffset, hsize.symm, ?_⟩
    -- The line has more bytes just if there are carriage returns to make them up.
    rw [← strayReturns_eq_nil_iff, ← byteSize_eq_zero_iff]
    omega

/-- Lines with either end and without one, the last two of them with a carriage return too many. -/
theorem lines_content_mixed :
    let doc := ofText "# %% a\r\nb\n# %%\r\r\nc\r".toList
    let stray : Line := ⟨⟨10, 17⟩, "# %%\r\r\n".toList⟩
    let last : Line := ⟨⟨17, 19⟩, "c\r".toList⟩
    (∃ line, doc.lines[0]? = some line ∧ line.text = line.content ++ ['\r', '\n']) ∧
      (∃ line, doc.lines[1]? = some line ∧ line.text = line.content ++ ['\n']) ∧
      (doc.lines[2]? = some stray ∧ stray.text = stray.content ++ ['\r'] ++ ['\r', '\n'] ∧
        stray.text ≠ stray.content ++ stray.terminator) ∧
      (doc.lines[3]? = some last ∧ last.text = last.content ++ ['\r'] ++ [] ∧
        last.text ≠ last.content ++ last.terminator) ∧
      ∃ m ∈ doc.cellMarkers "# %%".toList,
        m.offset = 10 ∧ m.length + 1 + 2 = byteSize stray.text := by
  intro doc stray last
  obtain ⟨hlines, hmarkers⟩ := lines_content doc "# %%".toList
  have hstray : doc.lines[2]? = some stray := rfl
  have hlast : doc.lines[3]? = some last := rfl
  obtain ⟨hstrayText, -, -, -, hstrayIff⟩ := hlines 2 stray hstray
  obtain ⟨hlastText, -, -, -, hlastIff⟩ := hlines 3 last hlast
  refine ⟨⟨_, rfl, (hlines 0 _ rfl).2.2.2.2.2 (by decide)⟩,
    ⟨_, rfl, (hlines 1 _ rfl).2.2.2.2.2 (by decide)⟩,
    ⟨hstray, hstrayText, fun h => absurd (hstrayIff.1 h) (by decide)⟩,
    ⟨hlast, hlastText, fun h => absurd (hlastIff.1 h) (by decide)⟩, ?_⟩
  obtain ⟨m, hm, hoffset⟩ : ∃ m ∈ doc.cellMarkers "# %%".toList, m.offset = 10 := by
    decide +kernel
  obtain ⟨line, hline, -, hlength, -⟩ := hmarkers m hm
  -- The third line starts at offset 10.
  have hon : doc.metrics.lineOf 10 = 2 := (line_start hstray).2
  rw [hoffset, hon, hstray] at hline
  obtain rfl := Option.some.inj hline
  exact ⟨m, hm, hoffset, hlength⟩

/-- Of two carriage returns in front of a line feed, only the second one belongs to the end of the
line, but the content and the marker go without both. -/
theorem lines_content_extra_return :
    let doc := ofText "# %%\r\r\n".toList
    ∃ line ∈ doc.lines, line.terminator = ['\r', '\n'] ∧ line.content = "# %%".toList ∧
      line.text ≠ line.content ++ line.terminator ∧
      ∃ m ∈ doc.cellMarkers "# %%".toList, m.offset = line.span.start ∧ m.length = 4 ∧
        byteSize line.text - byteSize line.terminator = 5 := by
  decide +kernel

end Document

end NotebookLayout
