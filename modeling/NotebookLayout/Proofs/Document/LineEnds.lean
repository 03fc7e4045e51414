import NotebookLayout.Proofs.Document.Lines

/-!
# Texts with carriage returns at their line ends

A carriage return put in front of every line feed changes no line but for its end, and moves every
offset by the line feeds in front of it:

- `splitLines_crlf`: the lines are the same, each with its carriage return;
- `crlfOffset_byteSize`: where a part of the text ends;
- `lines_crlf`: the lines with their places;
- `content_crlf`: without their ends the lines are the same;
- `lineOf_crlfOffset`: an offset stays on its line.
-/

namespace NotebookLayout

namespace Text

/-- The text with a carriage return in front of every line feed. -/
def crlf (t : Text) : Text := t.flatMap fun c => if c = '\n' then ['\r', '\n'] else [c]

@[simp] theorem crlf_nil : crlf [] = [] := rfl

@[simp] theorem crlf_cons_newline (t : Text) : crlf ('\n' :: t) = '\r' :: '\n' :: crlf t := rfl

/-- Other characters stay as they are. -/
theorem crlf_cons_of_ne {c : Char} (hc : c ≠ '\n') (t : Text) : crlf (c :: t) = c :: crlf t := by
  simp [crlf, hc]

/-- Each part of a text can be changed by itself. -/
theorem crlf_append (s t : Text) : crlf (s ++ t) = crlf s ++ crlf t := List.flatMap_append

/-- A text without line feeds stays as it is. -/
theorem crlf_of_notMem {t : Text} (h : '\n' ∉ t) : crlf t = t := by
  induction t with
  | nil => rfl
  | cons c t ih =>
    rw [List.mem_cons, not_or] at h
    rw [crlf_cons_of_ne (Ne.symm h.1), ih h.2]

/-- No line feed is added or lost. -/
theorem count_crlf (t : Text) : (crlf t).count '\n' = t.count '\n' := by
  induction t with
  | nil => rfl
  | cons c t ih =>
    by_cases hc : c = '\n'
    · simp [hc, ih]
    · rw [crlf_cons_of_ne hc, List.count_cons_of_ne hc, List.count_cons_of_ne hc, ih]

/-- A text becomes longer by one byte for each of its line feeds. -/
theorem byteSize_crlf (t : Text) : byteSize (crlf t) = byteSize t + t.count '\n' := by
  induction t with
  | nil => rfl
  | cons c t ih =>
    by_cases hc : c = '\n'
    · have hsize : '\r'.utf8Size = 1 := rfl
      rw [hc, crlf_cons_newline, byteSize_cons, byteSize_cons, byteSize_cons, ih,
        List.count_cons_self]
      omega
    · rw [crlf_cons_of_ne hc, List.count_cons_of_ne hc, byteSize_cons, byteSize_cons, ih,
        Nat.add_assoc]

/-- The lines are those of before, with their ends changed. -/
theorem splitLines_crlf (t : Text) : splitLines (crlf t) = (splitLines t).map crlf := by
  induction t with
  | nil => rfl
  | cons c t ih =>
    by_cases hc : c = '\n'
    · -- The carriage return begins a line that the line feed ends.
      simp [hc, splitLines, ih]
    · rw [crlf_cons_of_ne hc, splitLines, splitLines, if_neg hc, if_neg hc, ih]
      cases splitLines t with
      | nil => simp [crlf_cons_of_ne hc]
      | cons line lines => simp [crlf_cons_of_ne hc]

/-! ## Offsets -/

/-- The number of line feeds in front of an offset. -/
def feedsBefore (t : Text) (offset : Nat) : Nat := (offsetsOf '\n' 0 t).countP (· < offset)

/-- In front of the end of a part there are the line feeds of the part. -/
theorem feedsBefore_byteSize (a b : Text) : feedsBefore (a ++ b) (byteSize a) = a.count '\n' :=
  countP_offsetsOf_append '\n' a b

/-- Where an offset is once the line feeds have carriage returns in front of them. -/
def crlfOffset (t : Text) (offset : Nat) : Nat := offset + feedsBefore t offset

/-- The end of a part is moved to where the changed part ends. -/
theorem crlfOffset_byteSize (a b : Text) :
    crlfOffset (a ++ b) (byteSize a) = byteSize (crlf a) := by
  rw [crlfOffset, feedsBefore_byteSize, byteSize_crlf]

end Text

open Text

/-! ## Lines -/

namespace Line

/-- The line of a text with a carriage return in front of its line feed and of those of the text. -/
def crlf (t : Text) (line : Line) : Line where
  span := ⟨crlfOffset t line.span.start, crlfOffset t line.span.stop⟩
  text := line.text.crlf

/-- Lines with changed ends lie where their offsets are moved to. -/
theorem place_crlf (a : Text) (ts : List Text) :
    place (byteSize a.crlf) (ts.map Text.crlf) =
      (place (byteSize a) ts).map (crlf (a ++ ts.flatten)) := by
  induction ts generalizing a with
  | nil => rfl
  | cons t ts ih =>
    have ih := ih (a ++ t)
    have hstart := crlfOffset_byteSize a (t ++ ts.flatten)
    have hstop := crlfOffset_byteSize (a ++ t) ts.flatten
    rw [crlf_append, byteSize_append, byteSize_append] at ih
    rw [crlf_append, byteSize_append, byteSize_append] at hstop
    rw [List.append_assoc] at ih hstop
    rw [List.map_cons, place, place, ih, List.map_cons, List.flatten_cons, crlf, hstart, hstop]

/-- Without its end, a line is the same. -/
theorem content_crlf (t : Text) {line : Line} (h : IsFullLine line.text ∨ '\n' ∉ line.text) :
    (line.crlf t).content = line.content := by
  rw [content, content, crlf]
  rcases h with ⟨body, htext, hbody⟩ | hnone
  · -- Both ends are dropped, and whatever comes before them is the same.
    rw [htext, crlf_append, crlf_of_notMem hbody]
    simp [dropEndWhile, isTerminator]
  · rw [crlf_of_notMem hnone]

end Line

namespace Document

/-- So every line is changed, and its span with it. -/
theorem lines_crlf (t : Text) : (ofText t.crlf).lines = (ofText t).lines.map (Line.crlf t) := by
  have h := Line.place_crlf [] (splitLines t)
  rw [List.nil_append, flatten_splitLines, ← splitLines_crlf] at h
  exact h

/-- An offset that is moved stays on its line. -/
theorem lineOf_crlfOffset (a b : Text) :
    (ofText (a ++ b).crlf).metrics.lineOf (crlfOffset (a ++ b) (byteSize a)) =
      (ofText (a ++ b)).metrics.lineOf (byteSize a) := by
  rw [crlfOffset_byteSize, crlf_append]
  change (LineIndex.ofText _).lineOf _ = (LineIndex.ofText _).lineOf _
  rw [LineIndex.lineOf_byteSize, LineIndex.lineOf_byteSize, count_crlf]

end Document

end NotebookLayout
