import NotebookLayout.Text.CodeRange

/-!
# Blank characters

The characters with the Unicode property White_Space, and trimming by them.

Main statements: what `trim` leaves neither begins nor ends with a blank
(`isBlank_head_trim`, `isBlank_getLast_trim`).
-/

namespace NotebookLayout.Text

/-- The Unicode property White_Space. -/
def blankRanges : List CodeRange :=
  [⟨0x0009, 0x000D⟩, ⟨0x0020, 0x0020⟩, ⟨0x0085, 0x0085⟩, ⟨0x00A0, 0x00A0⟩, ⟨0x1680, 0x1680⟩,
    ⟨0x2000, 0x200A⟩, ⟨0x2028, 0x2029⟩, ⟨0x202F, 0x202F⟩, ⟨0x205F, 0x205F⟩, ⟨0x3000, 0x3000⟩]

/-- The character has the Unicode property White_Space. -/
def isBlank (c : Char) : Bool := inRanges blankRanges c.toNat

/-- The text without its leading blanks. -/
def trimStart (t : Text) : Text := t.dropWhile isBlank

/-- The text without its trailing blanks. -/
def trimEnd (t : Text) : Text := dropEndWhile isBlank t

/-- The text without leading and trailing blanks. -/
def trim (t : Text) : Text := trimEnd (trimStart t)

/-- No blank is left at the end. -/
theorem isBlank_getLast_trimEnd {t u : Text} {c : Char} (h : trimEnd t = u ++ [c]) :
    isBlank c = false := by
  have hd : t.reverse.dropWhile isBlank = c :: u.reverse := by
    have := congrArg List.reverse h
    simpa [trimEnd, dropEndWhile] using this
  have := List.head?_dropWhile_not isBlank t.reverse
  rw [hd] at this
  simpa using this

/-- Nor is one if the start is trimmed too. -/
theorem isBlank_getLast_trim {t u : Text} {c : Char} (h : trim t = u ++ [c]) :
    isBlank c = false := isBlank_getLast_trimEnd h

/-- Trimming the end keeps a prefix. -/
theorem trimEnd_isPrefix (t : Text) : trimEnd t <+: t :=
  ⟨takeEndWhile isBlank t, dropEndWhile_append_takeEndWhile isBlank t⟩

/-- No blank is left at the start. -/
theorem isBlank_head_trim {t u : Text} {c : Char} (h : trim t = c :: u) : isBlank c = false := by
  obtain ⟨r, hr⟩ := trimEnd_isPrefix (trimStart t)
  rw [← trim, h] at hr
  have := List.head?_dropWhile_not isBlank t
  rw [← trimStart, ← hr] at this
  simpa using this

end NotebookLayout.Text
