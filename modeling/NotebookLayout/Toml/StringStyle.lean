import NotebookLayout.Text.Basic

/-!
# Styles of TOML strings

A string stands between quotation marks or between apostrophes, one or three of each on either side.
Only between quotation marks does a backslash begin an escape, and only between three of either may
line feeds stand.
-/

namespace NotebookLayout.Toml

/-- How a string is written. -/
structure StringStyle where
  /-- The delimiter is the apostrophe, and there are no escapes. -/
  literal : Bool
  /-- The delimiter is threefold. -/
  multiline : Bool
  deriving DecidableEq

namespace StringStyle

/-- The character that delimits the string. -/
def quote (style : StringStyle) : Char := if style.literal then '\'' else '"'

/-- What opens and closes the string. -/
def delimiter (style : StringStyle) : Text :=
  List.replicate (if style.multiline then 3 else 1) style.quote

end StringStyle

/-- A control character that may stand nowhere in a document: any but the tab. A line feed, alone or
after a carriage return, ends a line, which some places allow. -/
def isControl (c : Char) : Bool := (c.toNat < 0x20 && c ≠ '\t') || c = '\x7f'

end NotebookLayout.Toml
