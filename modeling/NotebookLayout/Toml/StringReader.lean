import NotebookLayout.Toml.StringStyle

/-!
# Reading TOML strings

A string is read character by character. The reader is in one of four modes: between characters,
after a backslash, within the digits of a code point, or past a backslash that ends a line.
-/

namespace NotebookLayout.Toml

/-! ## Escapes -/

/-- The character that a letter after a backslash stands for. -/
def escaped? : Char → Option Char
  | 'b' => some '\x08'
  | 't' => some '\t'
  | 'n' => some '\n'
  | 'f' => some '\x0c'
  | 'r' => some '\r'
  | 'e' => some '\x1b'
  | '"' => some '"'
  | '\\' => some '\\'
  | _ => none

/-- The value of a digit below a base of at most sixteen. -/
def digit? (base : Nat) (c : Char) : Option Nat :=
  let value :=
    if '0' ≤ c ∧ c ≤ '9' then c.toNat - '0'.toNat
    else if 'a' ≤ c ∧ c ≤ 'f' then c.toNat - 'a'.toNat + 10
    else if 'A' ≤ c ∧ c ≤ 'F' then c.toNat - 'A'.toNat + 10
    else base
  if value < base then some value else none

/-- The character with a code point, if there is one. -/
def ofCodePoint? (n : Nat) : Option Char := if n.isValidChar then some (Char.ofNat n) else none

/-! ## One character -/

/-- Where the reader of a string is. -/
inductive StringMode where
  /-- Between two characters of the text. -/
  | plain
  /-- After a backslash. -/
  | escape
  /-- Within the digits of a code point: so many are to come, and this is the value so far. -/
  | codePoint (left value : Nat)
  /-- After a backslash at the end of a line, where blanks and line feeds are skipped; whether the
  line has ended yet. -/
  | lineEnd (ended : Bool)
  deriving DecidableEq

/-- What a character means to the reader of a string. -/
inductive StringStep where
  /-- The string cannot go on like this. -/
  | refuse
  /-- The string ends: the last of its text, and what follows the string. -/
  | close (text rest : Text)
  /-- The string goes on: a piece of its text, and where the reader is next. -/
  | go (text : Text) (mode : StringMode)
  deriving DecidableEq

namespace StringStyle

/-- A delimiter character between two characters of the text. Up to two of them may stand before a
threefold delimiter and belong to the text. -/
def stepQuote (style : StringStyle) (rest : Text) : StringStep :=
  if style.multiline then
    if rest.take 2 = [style.quote, style.quote] then
      -- Of up to five in a row, the last three close the string.
      let after := rest.drop 2
      let extra := (after.take 2).takeWhile (· = style.quote)
      .close extra (after.drop extra.length)
    else .go [style.quote] .plain
  else .close [] rest

/-- A character between two characters of the text, with what follows it. -/
def stepPlain (style : StringStyle) (c : Char) (rest : Text) : StringStep :=
  if c = style.quote then style.stepQuote rest
  else if c = '\\' ∧ style.literal = false then .go [] .escape
  else if c = '\n' ∨ (c = '\r' ∧ rest.head? = some '\n') then
    if style.multiline then .go [c] .plain else .refuse
  else if isControl c then .refuse
  else .go [c] .plain

/-- A blank or the end of a line after a backslash; anything else is read by `other`. -/
def stepLineEnd (ended : Bool) (c : Char) (rest : Text) (other : StringStep) : StringStep :=
  if c = ' ' ∨ c = '\t' then .go [] (.lineEnd ended)
  else if c = '\n' then .go [] (.lineEnd true)
  else if c = '\r' ∧ rest.head? = some '\n' then .go [] (.lineEnd ended)
  else other

/-- The character after a backslash, with what follows it. -/
def stepEscape (style : StringStyle) (c : Char) (rest : Text) : StringStep :=
  match escaped? c with
  | some d => .go [d] .plain
  | none =>
    if c = 'x' then .go [] (.codePoint 2 0)
    else if c = 'u' then .go [] (.codePoint 4 0)
    else if c = 'U' then .go [] (.codePoint 8 0)
    else if style.multiline then stepLineEnd false c rest .refuse
    else .refuse

/-- A digit of a code point. -/
def stepCodePoint (left value : Nat) (c : Char) : StringStep :=
  match digit? 16 c with
  | none => .refuse
  | some d =>
    -- The last digit gives the character; surrogates and numbers past the last one are refused.
    if left ≤ 1 then
      match ofCodePoint? (value * 16 + d) with
      | some e => .go [e] .plain
      | none => .refuse
    else .go [] (.codePoint (left - 1) (value * 16 + d))

/-- What a character means, with what follows it. -/
def step (style : StringStyle) (mode : StringMode) (c : Char) (rest : Text) : StringStep :=
  match mode with
  | .plain => style.stepPlain c rest
  | .escape => style.stepEscape c rest
  | .codePoint left value => stepCodePoint left value c
  | .lineEnd ended =>
    stepLineEnd ended c rest (if ended then style.stepPlain c rest else .refuse)

/-! ## Whole strings -/

/-- Reads on to the end of a string: the text of the string and what follows it. -/
def readFrom? (style : StringStyle) (mode : StringMode) : Text → Option (Text × Text)
  | [] => none
  | c :: t =>
    match style.step mode c t with
    | .refuse => none
    | .close last rest => some (last, rest)
    | .go piece mode => (readFrom? style mode t).map fun p => (piece ++ p.1, p.2)

end StringStyle

/-- A text without a line end at its start. -/
def dropLineEnd : Text → Text
  | '\n' :: t => t
  | '\r' :: '\n' :: t => t
  | t => t

/-- Reads a string in a given style, its opening delimiter passed. -/
def StringStyle.read? (style : StringStyle) (t : Text) : Option (Text × Text) :=
  style.readFrom? .plain (if style.multiline then dropLineEnd t else t)

/-- Reads a string: its text and what follows it. -/
def readString? : Text → Option (Text × Text)
  | '"' :: '"' :: '"' :: t => StringStyle.read? { literal := false, multiline := true } t
  | '\'' :: '\'' :: '\'' :: t => StringStyle.read? { literal := true, multiline := true } t
  | '"' :: t => StringStyle.read? { literal := false, multiline := false } t
  | '\'' :: t => StringStyle.read? { literal := true, multiline := false } t
  | _ => none

end NotebookLayout.Toml
