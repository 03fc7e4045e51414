import NotebookLayout.Text.Basic

/-!
# TOML tables

The values of a document, and how its lines build up its tables. A key is defined once. A table
comes about by a header of its own, on the way to another header, by dotted keys or between braces,
and how it came about decides what may still be added to it.
-/

namespace NotebookLayout.Toml

/-- How a table came about. -/
inductive TableOrigin where
  /-- By a header of its own. -/
  | header
  /-- On the way to the table of another header. -/
  | implied
  /-- By a dotted key. -/
  | dotted
  /-- Between braces. -/
  | inline
  deriving DecidableEq

/-- A value. Floats and times are kept as they are written. -/
inductive Value where
  | string (text : Text)
  | integer (value : Int)
  | float (written : Text)
  | boolean (value : Bool)
  | time (written : Text)
  | array (items : List Value)
  | table (origin : TableOrigin) (entries : List (Text × Value))
  /-- Tables under one header each, of which the last may still grow. -/
  | tables (elements : List (List (Text × Value)))

/-- Keys with their values. -/
abbrev Table := List (Text × Value)

/-- A dotted key: the parts before the last one, and the last one. -/
structure Key where
  /-- The tables that lead to the key. -/
  path : List Text
  /-- The key in the last of these tables. -/
  name : Text

/-- What a line of a document says. -/
inductive Statement where
  /-- The table that the next entries go to. -/
  | table (key : Key)
  /-- A further table of several under one key, to which the next entries go. -/
  | element (key : Key)
  /-- An entry. -/
  | entry (key : Key) (value : Value)

namespace Table

/-- The value of a key. -/
def get? (table : Table) (key : Text) : Option Value := table.lookup key

/-- The table with a value for a key, in place of an earlier one. -/
def set (key : Text) (value : Value) : Table → Table
  | [] => [(key, value)]
  | (k, v) :: rest => if k = key then (key, value) :: rest else (k, v) :: set key value rest

/-- Adds an entry, whose key must be new. Tables that are missing on its path are made. The last
table of the path has to be one that dotted keys made; on the way to it there may also be tables
that headers implied and, of several tables under one key, the last. -/
def define (name : Text) (value : Value) : List Text → Table → Option Table
  | [], table =>
    match table.get? name with
    | none => some (table.set name value)
    | some _ => none
  | key :: path, table =>
    match table.get? key with
    | none => (define name value path []).map fun sub => table.set key (.table .dotted sub)
    | some (.table .dotted sub) =>
      (define name value path sub).map fun sub => table.set key (.table .dotted sub)
    | some (.table .implied sub) =>
      if path = [] then none
      -- The origin stays, so that a header can still open the table.
      else (define name value path sub).map fun sub => table.set key (.table .implied sub)
    | some (.tables elements) => do
      if path = [] then none
      let last ← elements.getLast?
      let last ← define name value path last
      return table.set key (.tables (elements.dropLast ++ [last]))
    | some _ => none

/-- Changes the table that a path leads to. Tables that are missing on the way are made, and of
several under one key the path leads to the last; it does not lead into braces. -/
def modifyAt (f : Table → Option Table) : List Text → Table → Option Table
  | [], table => f table
  | key :: path, table =>
    match table.get? key with
    | none => (modifyAt f path []).map fun sub => table.set key (.table .implied sub)
    | some (.table origin sub) =>
      if origin = .inline then none
      else (modifyAt f path sub).map fun sub => table.set key (.table origin sub)
    | some (.tables elements) => do
      let last ← elements.getLast?
      let last ← modifyAt f path last
      return table.set key (.tables (elements.dropLast ++ [last]))
    | some _ => none

/-- Opens the table of a header: a new one, or one so far only implied by other headers. -/
def openTable (name : Text) (table : Table) : Option Table :=
  match table.get? name with
  | none => some (table.set name (.table .header []))
  | some (.table .implied sub) => some (table.set name (.table .header sub))
  | some _ => none

/-- Opens a further table under a key that has none or several. -/
def openElement (name : Text) (table : Table) : Option Table :=
  match table.get? name with
  | none => some (table.set name (.tables [[]]))
  | some (.tables elements) => some (table.set name (.tables (elements ++ [[]])))
  | some _ => none

/-- Follows statements from the table `current` on. -/
def follow (root : Table) (current : List Text) : List Statement → Option Table
  | [] => some root
  | .table key :: rest => do
    let root ← modifyAt (openTable key.name) key.path root
    follow root (key.path ++ [key.name]) rest
  | .element key :: rest => do
    let root ← modifyAt (openElement key.name) key.path root
    follow root (key.path ++ [key.name]) rest
  | .entry key value :: rest => do
    let root ← modifyAt (define key.name value key.path) current root
    follow root current rest

/-- The table that the statements of a document make up. -/
def ofStatements (statements : List Statement) : Option Table := follow [] [] statements

end Table

end NotebookLayout.Toml
