import NotebookLayout.Text.Basic

/-!
# Paths

A path as users write it, and the place that it leads to: `.` and repeated slashes count for
nothing, and `..` leads to the directory above.
-/

namespace NotebookLayout

/-! ## Places -/

/-- A place below the working directory, or outside it if it begins with `..` or `/`. -/
abbrev Place := List Text

namespace Place

/-- The component that leads to the directory above. -/
def up : Text := ['.', '.']

/-- The component that stands for the root. -/
def root : Text := ['/']

/-- The component leads nowhere. -/
def isIdle (component : Text) : Bool := component = [] || component = ['.']

/-- The directory above a place. -/
def above (place : Place) : Place :=
  match place.getLast? with
  | none => [up]
  -- Above a place that already leads up is one further up, and above the root is the root.
  | some c => if c = up then place ++ [up] else if c = root then place else place.dropLast

/-- The place one component further on. -/
def enter (place : Place) (component : Text) : Place :=
  if isIdle component then place
  else if component = up then place.above
  else place ++ [component]

end Place

/-! ## Written paths -/

/-- A path, cut at its slashes. -/
structure Path where
  /-- The path begins with a slash, and so at the root and not at the working directory. -/
  absolute : Bool
  /-- The components, an empty one wherever nothing stands between two slashes or at an end. -/
  components : List Text
  deriving DecidableEq

namespace Path

/-- Reads a path. -/
def ofText : Text → Path
  | '/' :: t => { absolute := true, components := t.splitOn '/' }
  | t => { absolute := false, components := t.splitOn '/' }

/-- The path as it is written. -/
def toText (path : Path) : Text :=
  let text := ['/'].intercalate path.components
  if path.absolute then '/' :: text else text

/-- Where the path starts. -/
def start (path : Path) : Place := if path.absolute then [Place.root] else []

/-- Where the path leads, whatever is there. -/
def place (path : Path) : Place := path.components.foldl Place.enter path.start

/-- The places that components lead through on their way from a place. -/
def passedFrom (place : Place) : List Text → List Place
  | c :: d :: rest => place.enter c :: passedFrom (place.enter c) (d :: rest)
  | _ => []

/-- The places that the path leads through. -/
def passed (path : Path) : List Place := passedFrom path.start path.components

/-- The components without those at the end that lead nowhere. -/
def dropIdleEnd (components : List Text) : List Text :=
  (components.reverse.dropWhile Place.isIdle).reverse

/-- The path without the last component that leads anywhere. -/
def parent (path : Path) : Path :=
  { path with components := dropIdleEnd (dropIdleEnd path.components).dropLast }

/-- The path ends with a slash. -/
def endsInSlash (path : Path) : Bool := path.components.getLast? = some []

/-- The last component between or after slashes, and the components in front of it; none if there
are only slashes. -/
def split? (path : Path) : Option (List Text × Text) :=
  match path.components.reverse.dropWhile (· = []) with
  | [] => none
  | name :: before => some (before.reverse, name)

end Path

end NotebookLayout
