import NotebookLayout.Text.Numeral
import NotebookLayout.Toml.StringReader
import NotebookLayout.Toml.Table

/-!
# Bare TOML values

Booleans, integers, floats and times, which stand without delimiters.
-/

namespace NotebookLayout.Toml

/-! ## Numbers -/

/-- Reads on in a number: digits of a base, with single underscores between digits. -/
def digitsFrom? (base value : Nat) : Text → Option Nat
  | [] => some value
  | '_' :: c :: t => do
    let d ← digit? base c
    digitsFrom? base (value * base + d) t
  | c :: t => do
    let d ← digit? base c
    digitsFrom? base (value * base + d) t

/-- The number that digits of a base make up, with single underscores between digits. -/
def digits? (base : Nat) : Text → Option Nat
  | [] => none
  | c :: t => do
    let d ← digit? base c
    digitsFrom? base d t

/-- A decimal number without needless zeros in front. -/
def decimal? : Text → Option Nat
  | ['0'] => some 0
  | '0' :: _ => none
  | t => digits? 10 t

/-- Reads a number with or without a sign in front. -/
def signed? (read : Text → Option Nat) : Text → Option Int
  | '+' :: t => (read t).map Int.ofNat
  | '-' :: t => (read t).map fun n => -Int.ofNat n
  | t => (read t).map Int.ofNat

/-- An integer: decimal with or without a sign, or with a letter for its base. -/
def integer? : Text → Option Int
  | '0' :: 'x' :: t => (digits? 16 t).map Int.ofNat
  | '0' :: 'o' :: t => (digits? 8 t).map Int.ofNat
  | '0' :: 'b' :: t => (digits? 2 t).map Int.ofNat
  | t => signed? decimal? t

/-- The integer fits into 128 bits, of which a negative one spends one on its sign. -/
def fitsInteger (n : Int) : Bool := -Int.pow 2 127 ≤ n && n < Int.pow 2 128

/-! ## Floats -/

/-- A decimal number without its sign: a coefficient times a power of ten. -/
structure Magnitude where
  /-- All digits that are written. -/
  coefficient : Nat
  /-- The power of ten. -/
  exponent : Int

/-- The midpoint above the largest number of 64-bit floating point. From here on numbers round to
infinity. -/
def overflowThreshold : Nat := Nat.pow 2 1024 - Nat.pow 2 970

/-- The number is below the threshold. Powers of ten are written out only if the count of digits
does not tell. -/
def Magnitude.isFinite (m : Magnitude) : Bool :=
  -- The threshold has 309 digits.
  let order := m.exponent + (Text.decimal m.coefficient).length
  if m.coefficient = 0 || order < 309 then true
  else if 309 < order then false
  else m.coefficient * Nat.pow 10 m.exponent.toNat <
    overflowThreshold * Nat.pow 10 (-m.exponent).toNat

/-- A text without a sign at its start. -/
def dropSign : Text → Text
  | '+' :: t => t
  | '-' :: t => t
  | t => t

/-- The number before the exponent of a float: a decimal number with or without a fraction. -/
def mantissa? (t : Text) : Option Magnitude := do
  let whole ← decimal? (t.takeWhile (· ≠ '.'))
  match t.dropWhile (· ≠ '.') with
  | [] => return { coefficient := whole, exponent := 0 }
  | _ :: fraction =>
    let digits ← digits? 10 fraction
    let places := fraction.countP (· ≠ '_')
    return { coefficient := whole * Nat.pow 10 places + digits, exponent := -places }

/-- A decimal number without a sign: a mantissa, and perhaps an exponent after a letter. -/
def magnitude? (t : Text) : Option Magnitude := do
  let isLetter (c : Char) : Bool := c = 'e' || c = 'E'
  let mantissa ← mantissa? (t.takeWhile (!isLetter ·))
  match t.dropWhile (!isLetter ·) with
  | [] => return mantissa
  | _ :: t =>
    let exponent ← signed? (digits? 10) t
    return { mantissa with exponent := mantissa.exponent + exponent }

/-- A float: one of the special values, or a decimal number that does not round to infinity. A
number without fraction and exponent is no float. -/
def isFloat (t : Text) : Bool :=
  let t := dropSign t
  let isMark (c : Char) : Bool := c = '.' || c = 'e' || c = 'E'
  if t = "inf".toList ∨ t = "nan".toList then true
  else t.any isMark && (magnitude? t).any (·.isFinite)

/-! ## Times -/

/-- The number that two digits make up. -/
def twoDigits? (a b : Char) : Option Nat := do
  return (← digit? 10 a) * 10 + (← digit? 10 b)

/-- The days of a month of the Gregorian calendar. -/
def daysInMonth (year month : Nat) : Nat :=
  if month = 2 then
    if (year % 4 = 0 ∧ year % 100 ≠ 0) ∨ year % 400 = 0 then 29 else 28
  else if month = 4 ∨ month = 6 ∨ month = 9 ∨ month = 11 then 30
  else 31

/-- A day: year, month and day of the month. -/
def isDate : Text → Bool
  | [y₁, y₂, y₃, y₄, '-', m₁, m₂, '-', d₁, d₂] =>
    match twoDigits? y₁ y₂, twoDigits? y₃ y₄, twoDigits? m₁ m₂, twoDigits? d₁ d₂ with
    | some century, some year, some month, some day =>
      1 ≤ month && month ≤ 12 && 1 ≤ day && day ≤ daysInMonth (century * 100 + year) month
    | _, _, _, _ => false
  | _ => false

/-- An hour and a minute. -/
def isHourMinute : Text → Bool
  | [h₁, h₂, ':', m₁, m₂] =>
    match twoDigits? h₁ h₂, twoDigits? m₁ m₂ with
    | some hour, some minute => hour ≤ 23 && minute ≤ 59
    | _, _ => false
  | _ => false

/-- A second, which may be a leap second, with or without a fraction. -/
def isSecond : Text → Bool
  | s₁ :: s₂ :: fraction =>
    match twoDigits? s₁ s₂ with
    | some second =>
      second ≤ 60 &&
        match fraction with
        | [] => true
        | point :: digits => point = '.' && digits ≠ [] && digits.all (·.isDigit)
    | none => false
  | _ => false

/-- A time of day, whose second may be missing. -/
def isTimeOfDay (t : Text) : Bool :=
  isHourMinute (t.take 5) &&
    match t.drop 5 with
    | [] => true
    | colon :: second => colon = ':' && isSecond second

/-- A distance from universal time. -/
def isOffset : Text → Bool
  | [c] => c = 'Z' || c = 'z'
  | c :: t => (c = '+' || c = '-') && isHourMinute t
  | [] => false

/-- A time of day with or without a distance from universal time. -/
def isTimeWithOffset (t : Text) : Bool :=
  let startsOffset (c : Char) : Bool := c = 'Z' || c = 'z' || c = '+' || c = '-'
  let offset := t.dropWhile (!startsOffset ·)
  isTimeOfDay (t.takeWhile (!startsOffset ·)) && (offset = [] || isOffset offset)

/-- A day, a time of day, or both. -/
def isTime (t : Text) : Bool :=
  isDate t || isTimeOfDay t ||
    (isDate (t.take 10) && ((t.drop 10).head?.any fun c => c = 'T' || c = 't' || c = ' ') &&
      isTimeWithOffset (t.drop 11))

/-! ## Any bare value -/

/-- A character of a bare value. -/
def isBareValueChar (c : Char) : Bool :=
  c.isAlphanum || c = '+' || c = '-' || c = '_' || c = '.' || c = ':'

/-- The bare value at the start of a text, and what follows it. A day takes a time of day after one
space. -/
def splitBareValue (t : Text) : Text × Text :=
  let value := t.takeWhile isBareValueChar
  -- The space belongs to the value only if a digit follows it.
  match isDate value, t.dropWhile isBareValueChar with
  | true, ' ' :: c :: rest =>
    if c.isDigit then
      (value ++ ' ' :: c :: rest.takeWhile isBareValueChar, rest.dropWhile isBareValueChar)
    else (value, ' ' :: c :: rest)
  | _, rest => (value, rest)

/-- What a bare value is. -/
def bareValue? (t : Text) : Option Value :=
  if t = "true".toList then some (.boolean true)
  else if t = "false".toList then some (.boolean false)
  else
    match integer? t with
    | some n => if fitsInteger n then some (.integer n) else none
    | none =>
      if isFloat t then some (.float t)
      else if isTime t then some (.time t)
      else none

/-- Reads a bare value: what it is and what follows it. -/
def readBareValue? (t : Text) : Option (Value × Text) :=
  (bareValue? (splitBareValue t).1).map fun v => (v, (splitBareValue t).2)

end NotebookLayout.Toml
