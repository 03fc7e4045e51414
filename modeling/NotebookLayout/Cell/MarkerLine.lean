import NotebookLayout.Document.Line
import NotebookLayout.Partition.Basic
import NotebookLayout.Text.Blank

/-!
# Marker lines

A marker line begins with the marker and goes on with a title, a tag in brackets, both or neither.
The tags `markdown`, `md` and `raw` set the cell's kind; any other tag belongs to the title of a
code cell.

Main statements: `splitAtLast?_eq_some_iff` and `splitTag?_eq_some_iff` say how title and tag come
apart.
-/

namespace NotebookLayout

/-- The text before the last `sep` and the text after it. -/
def Text.splitAtLast? (sep : Char) : Text → Option (Text × Text)
  | [] => none
  | c :: t =>
    match splitAtLast? sep t with
    | some (before, after) => some (c :: before, after)
    | none => if c = sep then some ([], t) else none

/-- There is no split of a text without the separator, and only of such a text. -/
theorem Text.splitAtLast?_eq_none_iff {sep : Char} {t : Text} :
    splitAtLast? sep t = none ↔ sep ∉ t := by
  fun_induction splitAtLast? sep t <;> grind

/-- A text is split at the separator that no other one follows. -/
theorem Text.splitAtLast?_eq_some_iff {sep : Char} {t a b : Text} :
    splitAtLast? sep t = some (a, b) ↔ t = a ++ sep :: b ∧ sep ∉ b := by
  fun_induction splitAtLast? sep t generalizing a with
  | case1 => simp
  | case2 c t x y h ih => cases a <;> grind [splitAtLast?_eq_none_iff]
  | case3 t h => cases a <;> grind [splitAtLast?_eq_none_iff]
  | case4 c t h hc => cases a <;> grind [splitAtLast?_eq_none_iff]

/-- What a marker line says. -/
structure MarkerLine where
  /-- The line without its terminator. -/
  span : Span
  /-- The kind of the cell that begins here. -/
  kind : CellKind
  /-- The title of the cell. -/
  title : Option Text

namespace MarkerLine

/-- The kind that a tag stands for; letter case and surrounding blanks do not count. -/
def tagKind? (tag : Text) : Option CellKind :=
  let name := (Text.trim tag).map Char.toLower
  if name = "markdown".toList ∨ name = "md".toList then some .markdown
  else if name = "raw".toList then some .raw
  else none

/-- The text before a tag in brackets at the end, and the tag. -/
def splitTag? (t : Text) : Option (Text × Text) :=
  if t.getLast? = some ']' then Text.splitAtLast? '[' t.dropLast else none

/-- A tag is what stands between the last opening bracket and a closing bracket at the end. -/
theorem splitTag?_eq_some_iff {t title tag : Text} :
    splitTag? t = some (title, tag) ↔ t = title ++ '[' :: tag ++ [']'] ∧ '[' ∉ tag := by
  unfold splitTag?
  split
  next h =>
    obtain ⟨u, rfl⟩ := List.getLast?_eq_some_iff.1 h
    rw [List.dropLast_concat, Text.splitAtLast?_eq_some_iff, List.append_left_inj]
  next h =>
    constructor
    · simp
    · rintro ⟨rfl, -⟩
      exact absurd List.getLast?_concat h

/-- The title and the kind that a trimmed marker line gives after its marker. -/
def titleAndKind (t : Text) : Text × CellKind :=
  match splitTag? t with
  | some (title, tag) =>
    match tagKind? tag with
    | some kind => (Text.trimEnd title, kind)
    -- Brackets around anything else are part of the title.
    | none => (t, .code)
  | none => (t, .code)

/-- What may follow the marker directly: the end of the line, a blank or an opening bracket. -/
def endsMarker : Text → Bool
  | [] => true
  | c :: _ => Text.isBlank c || c = '['

/-- What a line says if it is a marker line. -/
def ofLine? (marker : Text) (line : Line) : Option MarkerLine := do
  let rest ← marker.isPrefixOf? line.content
  guard (endsMarker rest)
  let (title, kind) := titleAndKind (Text.trim rest)
  return {
    span := ⟨line.span.start, line.span.start + Text.byteSize line.content⟩
    kind
    title := if title = [] then none else some title }

end MarkerLine

end NotebookLayout
