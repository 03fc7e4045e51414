import NotebookLayout.Text.Numeral
import NotebookLayout.Toml.Reader
import NotebookLayout.Toml.StringWriter

/-!
# Settings

The tab size and the text of a cell marker, and how they are kept in a file.
-/

namespace NotebookLayout

/-- What the user can set. -/
structure Settings where
  /-- The columns that a tab counts as. -/
  tabSize : Nat := 4
  /-- The text that a marker line begins with. -/
  cellMarker : Text := ['#', ' ', '%', '%']
  deriving DecidableEq

namespace Settings

/-- The key of the tab size. -/
def tabSizeKey : Text := "tab_size".toList

/-- The key of the cell marker. -/
def cellMarkerKey : Text := "cell_marker".toList

/-- Where the settings are kept below a home directory. -/
def defaultPath (home : Text) : Text := home ++ "/.config/cellseg/config.toml".toList

/-! ## Written settings -/

/-- The settings as a file. -/
def write (settings : Settings) : Text :=
  tabSizeKey ++ " = ".toList ++ Text.decimal settings.tabSize ++ '\n' ::
    cellMarkerKey ++ " = ".toList ++ Toml.writeString settings.cellMarker ++ ['\n']

/-- A size among values: an integer that fits into 64 bits without a sign. -/
def size? : Toml.Value → Option Nat
  | .integer n => if 0 ≤ n ∧ n < Int.pow 2 64 then some n.toNat else none
  | _ => none

/-- A text among values. -/
def text? : Toml.Value → Option Text
  | .string t => some t
  | _ => none

/-- The value of a key, a default if the key is missing, and none if its value is of the wrong
type. -/
def valueOr? {β : Type} (table : Toml.Table) (key : Text) (decode : Toml.Value → Option β)
    (default : β) : Option β :=
  match table.get? key with
  | some value => decode value
  | none => some default

/-- The settings among the entries of a table; all other entries are passed over. -/
def ofTable? (table : Toml.Table) : Option Settings := do
  let default : Settings := {}
  let tabSize ← valueOr? table tabSizeKey size? default.tabSize
  let cellMarker ← valueOr? table cellMarkerKey text? default.cellMarker
  return { tabSize, cellMarker }

/-- The settings in a file. -/
def read? (t : Text) : Option Settings := Toml.readDocument? t >>= ofTable?

end Settings

/-! ## Settings files -/

/-- What is found at a path. -/
inductive FileContent where
  /-- There is nothing. -/
  | missing
  /-- There is a directory. -/
  | directory
  /-- There is a file whose bytes are no text. -/
  | undecodable
  /-- There is something that cannot be read. -/
  | unreadable (reason : String)
  /-- There is a text. -/
  | text (content : Text)
  deriving DecidableEq

/-- Why settings cannot be loaded. -/
inductive SettingsError where
  /-- A directory stands in place of the file. -/
  | directory (path : Text)
  /-- The file holds no text. -/
  | undecodable (path : Text)
  /-- The file cannot be read. -/
  | unreadable (path : Text) (reason : String)
  /-- The file holds no settings. -/
  | malformed (path : Text)
  /-- The tab size is zero. -/
  | zeroTabSize (path : Text)
  deriving DecidableEq

/-- The text of the error. -/
def SettingsError.message : SettingsError → String
  | .directory path =>
    "Failed to read config file at " ++ String.ofList path ++ ": Is a directory (os error 21)"
  | .undecodable path =>
    "Failed to read config file at " ++ String.ofList path ++
      ": stream did not contain valid UTF-8"
  | .unreadable path reason =>
    "Failed to read config file at " ++ String.ofList path ++ ": " ++ reason
  | .malformed path => "Failed to parse config file at " ++ String.ofList path
  | .zeroTabSize path =>
    "Invalid tab_size in config file at " ++ String.ofList path ++ ": must be at least 1"

/-- The settings found at a path, if there is a file. -/
def Settings.load (path : Text) : FileContent → Except SettingsError (Option Settings)
  | .missing => .ok none
  | .directory => .error (.directory path)
  | .undecodable => .error (.undecodable path)
  | .unreadable reason => .error (.unreadable path reason)
  | .text content =>
    match read? content with
    | none => .error (.malformed path)
    | some settings =>
      if settings.tabSize = 0 then .error (.zeroTabSize path) else .ok (some settings)

end NotebookLayout
