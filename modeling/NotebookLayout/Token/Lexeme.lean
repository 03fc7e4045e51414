import NotebookLayout.Token.Basic
import NotebookLayout.Text.Blank

/-!
# Lexemes

A text is cut into lexemes: runs of horizontal space, line ends, single punctuation marks,
quotations and words. Every text can be cut, since a character that fits nothing else is a word of
its own.

Main statements: `Lexeme.text_next_append` says that cutting off a lexeme loses nothing, and
`Lexeme.flatMap_text_ofText` that the lexemes joined are the text.
-/

namespace NotebookLayout

/-- A piece of text and what it is. -/
structure Lexeme where
  /-- What the piece is. -/
  kind : TokenKind
  /-- The piece. -/
  text : Text
  deriving DecidableEq

namespace Lexeme

/-! ## Character classes -/

/-- A space, a tab or a form feed. -/
def isSpacing (c : Char) : Bool := c = ' ' || c = '\t' || c = '\x0c'

/-- The kind of a punctuation mark. -/
def punctuation? : Char → Option TokenKind
  | '{' => some .openBrace
  | '}' => some .closeBrace
  | '(' => some .openParen
  | ')' => some .closeParen
  | '[' => some .openBracket
  | ']' => some .closeBracket
  | ';' => some .semicolon
  | ',' => some .comma
  | _ => none

/-- A character that can be anywhere in a word: no blank, no punctuation and no double quote. -/
def isWordChar (c : Char) : Bool := !Text.isBlank c && (punctuation? c).isNone && c ≠ '"'

/-! ## Quotations -/

/-- A character that stands for itself inside a quotation. -/
def isPlainQuoted (c : Char) : Bool := c ≠ '"' && c ≠ '\\' && c ≠ '\r' && c ≠ '\n'

/-- The longest run of quoted characters: those that stand for themselves, and a backslash with any
character after it but a line feed. -/
def takeQuoted : Text → Text
  | '\\' :: c :: t => if c = '\n' then [] else '\\' :: c :: takeQuoted t
  | c :: t => if isPlainQuoted c then c :: takeQuoted t else []
  | [] => []

/-- What follows the longest run of quoted characters. -/
def dropQuoted : Text → Text
  | '\\' :: c :: t => if c = '\n' then '\\' :: c :: t else dropQuoted t
  | c :: t => if isPlainQuoted c then dropQuoted t else c :: t
  | [] => []

@[simp] theorem takeQuoted_append_dropQuoted (t : Text) : takeQuoted t ++ dropQuoted t = t := by
  fun_induction takeQuoted t <;> grind [dropQuoted]

/-- The lexeme that a double quote begins, given what follows it: a quotation if the quoted run ends
at another double quote, and otherwise a word that takes the run. -/
def quotation (t : Text) : Lexeme × Text :=
  match dropQuoted t with
  | '"' :: rest => (⟨.quotation, '"' :: takeQuoted t ++ ['"']⟩, rest)
  | rest => (⟨.word, '"' :: takeQuoted t⟩, rest)

/-- A quotation and what is left of the text are the text. -/
theorem text_quotation_append (t : Text) :
    (quotation t).1.text ++ (quotation t).2 = '"' :: t := by
  have h := takeQuoted_append_dropQuoted t
  unfold quotation
  split
  next rest hd =>
    rw [hd] at h
    simp [h]
  next => simp [h]

/-! ## One lexeme -/

/-- The first lexeme of the text that begins with `c` and goes on with `t`, and what follows it. -/
def next (c : Char) (t : Text) : Lexeme × Text :=
  if isSpacing c then (⟨.whitespace, c :: t.takeWhile isSpacing⟩, t.dropWhile isSpacing)
  else if c = '\n' then (⟨.newline, [c]⟩, t)
  -- A carriage return without a line feed ends no line; it falls through to the last case.
  else if c = '\r' ∧ t.head? = some '\n' then (⟨.newline, ['\r', '\n']⟩, t.tail)
  else if c = '"' then quotation t
  else
    match punctuation? c with
    | some kind => (⟨kind, [c]⟩, t)
    | none =>
      -- What is left besides words are the blanks that are no spacing, each taken singly.
      if isWordChar c then (⟨.word, c :: t.takeWhile isWordChar⟩, t.dropWhile isWordChar)
      else (⟨.word, [c]⟩, t)

/-- A lexeme and what follows it are the text. -/
theorem text_next_append (c : Char) (t : Text) : (next c t).1.text ++ (next c t).2 = c :: t := by
  unfold next
  split
  · simp
  split
  · simp
  split
  next h =>
    obtain ⟨rfl, ht⟩ := h
    cases t with
    | nil => simp at ht
    | cons d t => simp_all
  split
  next h => rw [h, text_quotation_append]
  split
  · simp
  split <;> simp

/-- A lexeme takes a character or more. -/
theorem text_next_ne_nil (c : Char) (t : Text) : (next c t).1.text ≠ [] := by
  unfold next quotation
  grind

/-- So there is less left of the text. -/
theorem length_next_lt (c : Char) (t : Text) : (next c t).2.length < (c :: t).length := by
  have h := congrArg List.length (text_next_append c t)
  have := List.length_pos_iff.2 (text_next_ne_nil c t)
  rw [List.length_append] at h
  omega

/-! ## All lexemes -/

/-- The lexemes of a text, in order. -/
def ofText : Text → List Lexeme
  | [] => []
  | c :: t => (next c t).1 :: ofText (next c t).2
termination_by t => t.length
decreasing_by exact length_next_lt c t

/-- The lexemes joined are the text. -/
theorem flatMap_text_ofText (t : Text) : (ofText t).flatMap (·.text) = t := by
  fun_induction ofText t with
  | case1 => rfl
  | case2 c t ih => rw [List.flatMap_cons, ih, text_next_append]

end Lexeme

/-! ## Tokens -/

namespace Token

/-- Gives each of some consecutive lexemes its place, the first one at `offset`. -/
def place (offset : Nat) : List Lexeme → List Token
  | [] => []
  | x :: rest =>
    ⟨x.kind, x.text, ⟨offset, offset + Text.byteSize x.text⟩⟩ ::
      place (offset + Text.byteSize x.text) rest

/-- The tokens of a text, in order. -/
def ofText (t : Text) : List Token := place 0 (Lexeme.ofText t)

end Token

end NotebookLayout
