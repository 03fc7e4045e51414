import NotebookLayout.Path
import NotebookLayout.Settings

/-!
# Files by path

Text files under a working directory. A path that goes on after a name needs a directory of that
name; writing a file first makes the directories that lead to the last name of its path.
-/

namespace NotebookLayout

/-- Text files with their places. -/
structure Files where
  /-- Every file once. -/
  entries : List (Place × Text) := []
  /-- The directories made for files. -/
  directories : List Place := []

/-- Why a file cannot be written. -/
inductive WriteError where
  /-- The path is empty, or a directory on it is missing. -/
  | notFound
  /-- A file stands in place of a directory. -/
  | notDirectory
  /-- The path is one of a directory. -/
  | isDirectory
  /-- The path or a name on it is too long. -/
  | tooLong
  /-- The path holds the character that ends paths. -/
  | nul
  deriving DecidableEq

/-- The text of the error. -/
def WriteError.message : WriteError → String
  | .notFound => "No such file or directory (os error 2)"
  | .notDirectory => "Not a directory (os error 20)"
  | .isDirectory => "Is a directory (os error 21)"
  | .tooLong => "File name too long (os error 36)"
  | .nul => "file name contained an unexpected NUL byte"

namespace Files

/-! ## Limits -/

/-- The bytes that a name has at most. -/
def maxNameSize : Nat := 255

/-- The bytes that a path has at most. -/
def maxPathSize : Nat := 4095

/-- A name of a file or directory has to be short enough. -/
def checkName (name : Text) : Except WriteError Unit :=
  if maxNameSize < Text.byteSize name then .error .tooLong else .ok ()

/-- A path must not hold the character NUL, and has to be short enough. -/
def checkPath (path : Text) : Except WriteError Unit :=
  if '\x00' ∈ path then .error .nul
  else if maxPathSize < Text.byteSize path then .error .tooLong
  else .ok ()

/-! ## Files and directories -/

/-- The text of the file at a place. -/
def get? (files : Files) (place : Place) : Option Text := files.entries.lookup place

/-- The place is the working directory, lies outside it without a name, or was made a directory. -/
def isDirectory (files : Files) (place : Place) : Bool :=
  place.all (fun c => c = Place.up || c = Place.root) || files.directories.contains place

/-- The files with one at a place, instead of any that was there. -/
def set (files : Files) (place : Place) (content : Text) : Files :=
  { files with entries := (place, content) :: files.entries.filter (·.1 != place) }

/-- Where components lead from a place through directories, which all have to be there. -/
def walk (files : Files) (place : Place) : List Text → Except WriteError Place
  | [] => .ok place
  | c :: rest => do
    checkName c
    let next := place.enter c
    if files.isDirectory next then files.walk next rest
    else throw (if (files.get? next).isSome then .notDirectory else .notFound)

/-- Makes the directories that components lead through from a place. -/
def makeDirectories (files : Files) (place : Place) : List Text → Except WriteError Files
  | [] => .ok files
  | c :: rest => do
    checkName c
    let next := place.enter c
    if (files.get? next).isSome then throw .notDirectory
    makeDirectories { files with directories := next :: files.directories } next rest

/-! ## Reading -/

/-- What is found at a path. -/
def read (files : Files) (path : Text) : FileContent :=
  let components := (Path.ofText path).components
  let directory : Except WriteError Place := do
    checkPath path
    files.walk (Path.ofText path).start components.dropLast
  match directory with
  | .error _ => .missing
  | .ok directory =>
    let place := directory.enter (components.getLastD [])
    if path = [] then .missing
    else
      match files.get? place with
      | some content => .text content
      | none => if files.isDirectory place then .directory else .missing

/-- Files at paths. -/
def ofPaths (contents : List (Text × Text)) : Files :=
  contents.foldl (fun files e =>
    let path := Path.ofText e.1
    { files.set path.place e.2 with directories := path.passed ++ files.directories }) {}

/-! ## Writing -/

/-- The place of the file that a path is one of, in a directory that has to be there. -/
def locate (files : Files) (path : Path) : Except WriteError Place := do
  match path.split? with
  | none => throw .isDirectory
  | some (before, name) =>
    let place := (← files.walk path.start before).enter name
    -- A slash at the end stands for a directory, whether or not there is one.
    if path.endsInSlash || files.isDirectory place then throw .isDirectory
    checkName name
    return place

/-- Writes a file, with the directories that its path needs. -/
def write (files : Files) (path content : Text) : Except WriteError Files := do
  let parent := (Path.ofText path).parent
  checkPath parent.toText
  let files ← files.makeDirectories parent.start parent.components
  checkPath path
  if path = [] then throw .notFound
  let place ← files.locate (.ofText path)
  return files.set place content

end Files

end NotebookLayout
