import NotebookLayout.Span
import NotebookLayout.Text.Basic

/-!
# Tokens

The kinds of token that layout tells apart, and tokens with their place in a text.
-/

namespace NotebookLayout

/-- What a token is. -/
inductive TokenKind where
  /-- A run of spaces, tabs and form feeds. -/
  | whitespace
  /-- A line feed, or a carriage return and a line feed. -/
  | newline
  | openBrace
  | closeBrace
  | openParen
  | closeParen
  | openBracket
  | closeBracket
  | semicolon
  | comma
  /-- A text between double quotes. -/
  | quotation
  /-- Anything else. -/
  | word
  deriving DecidableEq

/-- The token separates leaves and makes none itself. -/
def TokenKind.isTrivia : TokenKind → Bool
  | .whitespace | .newline => true
  | _ => false

/-- A token with its place in a text. -/
structure Token where
  /-- What the token is. -/
  kind : TokenKind
  /-- The token's text. -/
  text : Text
  /-- The token's bytes. -/
  span : Span

end NotebookLayout
