import NotebookLayout.Text.Basic

/-!
# Command line arguments

One file, and options in any order: `--config` with a path, `--indent` and `--toml`. Two hyphens end
the options. Arguments are read from left to right, and the first fault counts. An argument that
stands for itself is not looked into before the next option or file or the end, so that an argument
that does not belong there at all is a fault before it.
-/

namespace NotebookLayout

/-- What the user asks for. -/
structure Arguments where
  /-- The file to report on. -/
  file : Text
  /-- The settings file, if not the default one. -/
  config : Option Text
  /-- Report on leaves, too. -/
  indent : Bool
  /-- Report in TOML. -/
  toml : Bool
  deriving DecidableEq

/-- Why there is nothing to run. -/
inductive UsageError where
  /-- The user asks for help. -/
  | help
  /-- The user asks for the version. -/
  | version
  /-- No file is named. -/
  | missingFile
  /-- An option that does not exist, or a second file. -/
  | unknownArgument
  /-- An option given twice. -/
  | repeatedOption
  /-- An option without the value it needs, or an empty value. -/
  | invalidValue
  /-- A value for an option that takes none. -/
  | unwantedValue
  deriving DecidableEq

namespace Arguments

/-- A path that is read but not looked into. -/
inductive Pending where
  /-- The file. -/
  | file (path : Text)
  /-- The value of `--config`, once it came. -/
  | config (path : Option Text)
  deriving DecidableEq

/-- The arguments read so far; the file may still be to come. -/
structure Draft where
  /-- The file, once it was named. -/
  file : Option Text := none
  /-- The settings file. -/
  config : Option Text := none
  /-- Whether leaves are asked for. -/
  indent : Bool := false
  /-- Whether TOML is asked for. -/
  toml : Bool := false
  /-- What is still to be looked into. -/
  pending : Option Pending := none
  deriving DecidableEq

/-- An option, and the value after an equals sign. -/
structure LongOption where
  /-- The name without its hyphens. -/
  name : Text
  /-- The value, if there is an equals sign. -/
  value : Option Text

/-- Reads an option, its hyphens passed. -/
def LongOption.ofText (t : Text) : LongOption where
  name := t.takeWhile (· ≠ '=')
  value :=
    match t.dropWhile (· ≠ '=') with
    | [] => none
    | _ :: value => some value

/-- The settings file. -/
def Draft.addConfig (draft : Draft) (path : Text) : Except UsageError Draft :=
  match draft.config with
  | some _ => .error .repeatedOption
  | none => if path = [] then .error .invalidValue else .ok { draft with config := some path }

/-- Looks into what is pending. -/
def Draft.settle (draft : Draft) : Except UsageError Draft :=
  let settled := { draft with pending := none }
  match draft.pending with
  | none => .ok settled
  | some (.file path) =>
    if path = [] then .error .invalidValue else .ok { settled with file := some path }
  | some (.config none) => .error .invalidValue
  | some (.config (some path)) => settled.addConfig path

/-- The file is named, whether or not its path was looked into. -/
def Draft.hasFile (draft : Draft) : Bool :=
  match draft.pending with
  | some (.file _) => true
  | _ => draft.file.isSome

/-- An argument that stands for the file. -/
def Draft.addFile (draft : Draft) (path : Text) : Except UsageError Draft :=
  if draft.hasFile then .error .unknownArgument
  else do return { ← draft.settle with pending := some (.file path) }

/-- The option `--config`, with the value after an equals sign. -/
def Draft.readConfig (draft : Draft) (value : Option Text) : Except UsageError Draft := do
  let draft ← draft.settle
  match value with
  | some path => draft.addConfig path
  | none => return { draft with pending := some (.config none) }

/-- The option `--indent`, with the value after an equals sign. -/
def Draft.readIndent (draft : Draft) (value : Option Text) : Except UsageError Draft := do
  if value.isSome then throw .unwantedValue
  let draft ← draft.settle
  if draft.indent then throw .repeatedOption
  return { draft with indent := true }

/-- The option `--toml`, with the value after an equals sign. -/
def Draft.readToml (draft : Draft) (value : Option Text) : Except UsageError Draft := do
  if value.isSome then throw .unwantedValue
  let draft ← draft.settle
  if draft.toml then throw .repeatedOption
  return { draft with toml := true }

/-- The option `--help` or `--version`, which ends the reading, with the value after an equals
sign. -/
def Draft.readDemand (draft : Draft) (demand : UsageError) (value : Option Text) :
    Except UsageError Draft := do
  if value.isSome then throw .unwantedValue
  let _ ← draft.settle
  throw demand

/-- An option with two hyphens. -/
def Draft.readLong (draft : Draft) (option : LongOption) : Except UsageError Draft :=
  if option.name = "config".toList then draft.readConfig option.value
  else if option.name = "indent".toList then draft.readIndent option.value
  else if option.name = "toml".toList then draft.readToml option.value
  else if option.name = "help".toList then draft.readDemand .help option.value
  else if option.name = "version".toList then draft.readDemand .version option.value
  else .error .unknownArgument

/-- An argument that begins with one hyphen. Its first letter decides. -/
def Draft.readShort (draft : Draft) (letter : Char) : Except UsageError Draft :=
  if letter = 'h' then draft.readDemand .help none
  else if letter = 'V' then draft.readDemand .version none
  else .error .unknownArgument

/-- An argument that stands for itself: the value of `--config` right in front of it, or else the
file. -/
def Draft.readPlain (draft : Draft) (text : Text) : Except UsageError Draft :=
  match draft.pending with
  | some (.config none) => .ok { draft with pending := some (.config (some text)) }
  | _ => draft.addFile text

/-- An argument in front of the two hyphens that end the options. A lone hyphen stands for
itself. -/
def Draft.read (draft : Draft) : Text → Except UsageError Draft
  | '-' :: '-' :: t => draft.readLong (.ofText t)
  | '-' :: letter :: _ => draft.readShort letter
  | t => draft.readPlain t

/-- Reads arguments from left to right; after two hyphens all of them are files. -/
def readFrom (draft : Draft) : List Text → Except UsageError Draft
  | [] => .ok draft
  | ['-', '-'] :: rest => rest.foldlM Draft.addFile draft
  | arg :: rest => do readFrom (← draft.read arg) rest

/-- Reads the arguments of a command. -/
def ofList (args : List Text) : Except UsageError Arguments := do
  let draft ← readFrom {} args
  let draft ← draft.settle
  match draft.file with
  | some file =>
    return { file, config := draft.config, indent := draft.indent, toml := draft.toml }
  | none => throw .missingFile

end Arguments

end NotebookLayout
