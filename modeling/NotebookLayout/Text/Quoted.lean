import NotebookLayout.Text.Numeral
import NotebookLayout.Text.Unprintable

/-!
# Quoted texts

A text between double quotes, on one line: the quote and the backslash follow a backslash, four
controls have a letter, and every other unprintable character is its code point in braces.
-/

namespace NotebookLayout.Text

/-- A code point as an escape. -/
def codePointEscape (c : Char) : Text := ['\\', 'u', '{'] ++ hexadecimal c.toNat ++ ['}']

/-- How a character is written between quotes. -/
def quoteChar (c : Char) : Text :=
  match c with
  | '"' => ['\\', '"']
  | '\\' => ['\\', '\\']
  | '\t' => ['\\', 't']
  | '\r' => ['\\', 'r']
  | '\n' => ['\\', 'n']
  | '\x00' => ['\\', '0']
  | _ => if isUnprintable c then codePointEscape c else [c]

/-- The text between quotes. -/
def quote (t : Text) : Text := ['"'] ++ t.flatMap quoteChar ++ ['"']

end NotebookLayout.Text
