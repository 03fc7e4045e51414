import NotebookLayout.Span
import NotebookLayout.Text.Basic

/-!
# Lines

A text is cut into lines after every line feed. A line keeps the feed that ends it, so the lines
joined are the text again; nothing follows a feed at the very end of the text.
-/

namespace NotebookLayout

/-- The lines of a text, each with the line feed that ends it. -/
def Text.splitLines : Text → List Text
  | [] => []
  | c :: t =>
    if c = '\n' then [c] :: splitLines t
    else
      match splitLines t with
      | [] => [[c]]
      | line :: lines => (c :: line) :: lines

/-- The lines joined are the text. -/
@[simp] theorem Text.flatten_splitLines (t : Text) : (splitLines t).flatten = t := by
  fun_induction splitLines t <;> simp_all

/-- No line is empty. -/
theorem Text.ne_nil_of_mem_splitLines {t line : Text} (h : line ∈ splitLines t) : line ≠ [] := by
  fun_induction splitLines t generalizing line <;> grind

/-- A line with its place in the document. -/
structure Line where
  /-- The bytes of the line, its terminator included. -/
  span : Span
  /-- The line's text, its terminator included. -/
  text : Text

namespace Line

/-- Gives each of some consecutive texts its place, the first one at `offset`. -/
def place (offset : Nat) : List Text → List Line
  | [] => []
  | t :: rest =>
    ⟨⟨offset, offset + Text.byteSize t⟩, t⟩ :: place (offset + Text.byteSize t) rest

/-- The lines of a text, in order. -/
def ofText (t : Text) : List Line := place 0 (Text.splitLines t)

/-- The characters that end a line. -/
def isTerminator (c : Char) : Bool := c = '\r' || c = '\n'

/-- The line without its trailing carriage returns and line feeds. -/
def content (line : Line) : Text := Text.dropEndWhile isTerminator line.text

@[simp] theorem map_text_place (offset : Nat) (ts : List Text) :
    (place offset ts).map (·.text) = ts := by
  induction ts generalizing offset with
  | nil => rfl
  | cons t ts ih => simp [place, ih]

end Line

end NotebookLayout
