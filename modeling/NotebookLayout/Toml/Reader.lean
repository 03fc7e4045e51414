import NotebookLayout.Toml.Scalar

/-!
# Reading TOML documents

A document is read statement by statement, one to a line. A bound on the number of steps makes the
readers of nested values end; `steps` gives one that no text exceeds.
-/

namespace NotebookLayout.Toml

/-! ## Between the parts -/

/-- A space or a tab. -/
def isSpace (c : Char) : Bool := c = ' ' || c = '\t'

/-- A text without spaces and tabs at its start. -/
def skipSpace (t : Text) : Text := t.dropWhile isSpace

/-- Reads on to the line after a comment. -/
def skipComment? : Text → Option Text
  | [] => some []
  | '\n' :: t => some t
  | '\r' :: '\n' :: t => some t
  | c :: t => if isControl c then none else skipComment? t

/-- Reads on to the next line; only a comment may be left of this one. -/
def nextLine? (t : Text) : Option Text :=
  match skipSpace t with
  | [] => some []
  | '\n' :: t => some t
  | '\r' :: '\n' :: t => some t
  | '#' :: t => skipComment? t
  | _ => none

/-- Reads on past spaces, line ends and comments; `comment` tells whether the text begins within a
comment. -/
def skipLines? (comment : Bool) : Text → Option Text
  | [] => some []
  | '\n' :: t => skipLines? false t
  | '\r' :: '\n' :: t => skipLines? false t
  | c :: t =>
    if comment then if isControl c then none else skipLines? true t
    else if isSpace c then skipLines? false t
    else if c = '#' then skipLines? true t
    else some (c :: t)

/-! ## Keys -/

/-- A character of a key that stands without delimiters. -/
def isBareKeyChar (c : Char) : Bool := c.isAlphanum || c = '_' || c = '-'

/-- Reads one part of a key. -/
def readKeyPart? : Text → Option (Text × Text)
  | '"' :: t => StringStyle.read? { literal := false, multiline := false } t
  | '\'' :: t => StringStyle.read? { literal := true, multiline := false } t
  | t =>
    match t.takeWhile isBareKeyChar with
    | [] => none
    | part => some (part, t.dropWhile isBareKeyChar)

/-- The parts that a key has at most. -/
def maxKeyParts : Nat := 80

/-- Reads a key of at most so many parts, and the space after it. -/
def readParts? : Nat → Text → Option (Key × Text)
  | 0, _ => none
  | n + 1, t => do
    let (part, t) ← readKeyPart? t
    match skipSpace t with
    | '.' :: t =>
      let (key, t) ← readParts? n (skipSpace t)
      return ({ key with path := part :: key.path }, t)
    | t => return ({ path := [], name := part }, t)

/-- Reads a key and the space after it. -/
def readKey? (t : Text) : Option (Key × Text) := readParts? maxKeyParts t

/-! ## Values -/

/-- The arrays and tables between braces that a value is nested in at most, itself included. -/
def maxNesting : Nat := 80

mutual

/-- Reads a value that may be nested so many levels deep. -/
def readValue? : Nat → Nat → Text → Option (Value × Text)
  | 0, _, _ => none
  | n + 1, levels, t =>
    match t with
    | '[' :: t =>
      if levels = 0 then none
      else (readItems? n (levels - 1) t).map fun p => (.array p.1, p.2)
    | '\x7b' :: t =>
      if levels = 0 then none
      else (readEntries? n (levels - 1) [] t).map fun p => (.table .inline p.1, p.2)
    | '"' :: _ => (readString? t).map fun p => (.string p.1, p.2)
    | '\'' :: _ => (readString? t).map fun p => (.string p.1, p.2)
    | t => readBareValue? t

/-- Reads the items of an array, its opening bracket passed. A comma may follow the last item. -/
def readItems? : Nat → Nat → Text → Option (List Value × Text)
  | 0, _, _ => none
  | n + 1, levels, t => do
    match ← skipLines? false t with
    | ']' :: t => return ([], t)
    | t =>
      let (item, t) ← readValue? n levels t
      match ← skipLines? false t with
      | ',' :: t =>
        let (items, t) ← readItems? n levels t
        return (item :: items, t)
      | ']' :: t => return ([item], t)
      | _ => none

/-- Reads entries between braces into a table, the opening brace passed. A comma may follow the last
entry, and lines may end between any two parts. -/
def readEntries? : Nat → Nat → Table → Text → Option (Table × Text)
  | 0, _, _, _ => none
  | n + 1, levels, table, t => do
    match ← skipLines? false t with
    | '\x7d' :: t => return (table, t)
    | t =>
      let (key, t) ← readKey? t
      match ← skipLines? false t with
      | '=' :: t =>
        let (value, t) ← readValue? n levels (← skipLines? false t)
        let table ← table.define key.name value key.path
        match ← skipLines? false t with
        | ',' :: t => readEntries? n levels table t
        | '\x7d' :: t => return (table, t)
        | _ => none
      | _ => none

end

/-! ## Documents -/

/-- Reads a statement. -/
def readStatement? (n : Nat) : Text → Option (Statement × Text)
  | '[' :: '[' :: t => do
    let (key, t) ← readKey? (skipSpace t)
    match t with
    | ']' :: ']' :: t => return (.element key, t)
    | _ => none
  | '[' :: t => do
    let (key, t) ← readKey? (skipSpace t)
    match t with
    | ']' :: t => return (.table key, t)
    | _ => none
  | t => do
    let (key, t) ← readKey? t
    match t with
    | '=' :: t =>
      let (value, t) ← readValue? n maxNesting (skipSpace t)
      return (.entry key value, t)
    | _ => none

/-- Reads the lines of a document, of which each holds at most one statement. -/
def readLines? : Nat → Text → Option (List Statement)
  | 0, _ => none
  | n + 1, t =>
    match skipSpace t with
    | [] => some []
    | c :: t =>
      if c = '\n' ∨ c = '\r' ∨ c = '#' then do
        let t ← nextLine? (c :: t)
        readLines? n t
      else do
        -- A statement has the rest of its line to itself.
        let (statement, t) ← readStatement? n (c :: t)
        let t ← nextLine? t
        let statements ← readLines? n t
        return statement :: statements

/-- More steps than reading a text takes: every character of nested values takes at most two. -/
def steps (t : Text) : Nat := 2 * t.length + 2

/-- A text without a byte order mark at its start. -/
def dropByteOrderMark : Text → Text
  | '\ufeff' :: t => t
  | t => t

/-- The table that a document holds. -/
def readDocument? (t : Text) : Option Table := do
  let t := dropByteOrderMark t
  let statements ← readLines? (steps t) t
  Table.ofStatements statements

end NotebookLayout.Toml
