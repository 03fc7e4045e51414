import NotebookLayout.Toml.StringStyle

/-!
# Writing TOML strings

A text is written in the plainest style that takes it without an escape, on one line if it has no
line feed; with escapes only if there is no such style. Three delimiters in a row keep a text from
the threefold styles, except where escapes are used anyway.
-/

namespace NotebookLayout.Toml

/-! ## The style of a text -/

/-- The text has a control character that only an escape can write. -/
def needsEscape (t : Text) : Bool := t.any fun c => isControl c && c ≠ '\n'

/-- The text has three of a character in a row. -/
def hasThreefold (q : Char) : Text → Bool
  | a :: b :: c :: t => (a = q && b = q && c = q) || hasThreefold q (b :: c :: t)
  | _ => false

/-- The style in which a text is written. -/
def styleOf (t : Text) : StringStyle :=
  -- On one line, as it is.
  if !needsEscape t && !t.contains '\\' && !t.contains '"' && !t.contains '\n' then
    { literal := false, multiline := false }
  else if !needsEscape t && !t.contains '\'' && !t.contains '\n' then
    { literal := true, multiline := false }
  -- Between threefold delimiters, as it is; a text on one line may need them for its quotes.
  else if !needsEscape t && !t.contains '\\' && !hasThreefold '"' t then
    { literal := false, multiline := true }
  else if !needsEscape t && !hasThreefold '\'' t then
    { literal := true, multiline := true }
  -- With escapes.
  else { literal := false, multiline := t.contains '\n' }

/-! ## Escapes -/

/-- A hexadecimal digit in upper case. -/
def upperHexDigit (n : Nat) : Char := (Nat.digitChar n).toUpper

/-- How a character is written where there are escapes, a quotation mark and a line feed within
threefold delimiters apart. -/
def escapeChar (c : Char) : Text :=
  match c with
  | '\x08' => ['\\', 'b']
  | '\t' => ['\\', 't']
  | '\n' => ['\\', 'n']
  | '\x0c' => ['\\', 'f']
  | '\r' => ['\\', 'r']
  | '"' => ['\\', '"']
  | '\\' => ['\\', '\\']
  | _ =>
    if isControl c then
      ['\\', 'u', '0', '0', upperHexDigit (c.toNat / 16), upperHexDigit (c.toNat % 16)]
    else [c]

/-- The text between threefold quotation marks. Only the third of three quotation marks in a row is
escaped; `run` is the number of those just written. -/
def escapeLines (run : Nat) : Text → Text
  | [] => []
  | c :: t =>
    if c = '"' then
      if run = 2 then '\\' :: '"' :: escapeLines 0 t else '"' :: escapeLines (run + 1) t
    else if c = '\n' then '\n' :: escapeLines 0 t
    else escapeChar c ++ escapeLines 0 t

/-- The text between delimiters of a style. -/
def StringStyle.body (style : StringStyle) (t : Text) : Text :=
  if style.literal then t
  else if style.multiline then escapeLines 0 t
  else t.flatMap escapeChar

/-- What separates the opening delimiter from a text of several lines; a line feed there does not
belong to the text. -/
def StringStyle.lead (style : StringStyle) (t : Text) : Text :=
  if style.multiline && t.contains '\n' then ['\n'] else []

/-- The text as a string in a given style. -/
def StringStyle.write (style : StringStyle) (t : Text) : Text :=
  style.delimiter ++ style.lead t ++ style.body t ++ style.delimiter

/-- The text as a string. -/
def writeString (t : Text) : Text := (styleOf t).write t

end NotebookLayout.Toml
