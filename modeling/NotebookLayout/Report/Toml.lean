import NotebookLayout.Report.Basic

/-!
# Reports in TOML

A report as a document of two arrays of tables, `cells` and `leaves`. An array without elements is
written as a value, in front of all tables.
-/

namespace NotebookLayout

namespace Toml

/-- A line that gives a key a value. -/
def assignment (key value : Text) : Text := key ++ " = ".toList ++ value ++ ['\n']

/-- A truth value. -/
def writeBoolean (b : Bool) : Text := if b then "true".toList else "false".toList

/-- An element of an array of tables: its header and the lines of its entries. -/
def writeElement (key : Text) (entries : List Text) : Text :=
  '[' :: '[' :: key ++ [']', ']', '\n'] ++ entries.flatten

/-- Blocks of lines with an empty line between any two. -/
def joinBlocks (blocks : List Text) : Text := (blocks.intersperse ['\n']).flatten

end Toml

/-- The row as an element of `cells`. -/
def CellRow.toToml (row : CellRow) : Text :=
  Toml.writeElement "cells".toList
    ([Toml.assignment "ordinal".toList (Text.decimal row.ordinal),
      Toml.assignment "kind".toList (Toml.writeString row.kind.name),
      Toml.assignment "start".toList (Text.decimal row.start),
      Toml.assignment "end".toList (Text.decimal row.stop),
      Toml.assignment "marker".toList (Toml.writeBoolean row.marker)] ++
    row.title.toList.map fun title => Toml.assignment "title".toList (Toml.writeString title))

/-- The row as an element of `leaves`. -/
def LeafRow.toToml (row : LeafRow) : Text :=
  Toml.writeElement "leaves".toList
    [Toml.assignment "line".toList (Text.decimal row.line),
      Toml.assignment "text".toList (Toml.writeString row.text),
      Toml.assignment "width".toList (Text.decimal row.width),
      Toml.assignment "indent_spaces".toList (Text.decimal row.indentSpaces),
      Toml.assignment "spaces".toList (Text.decimal row.spaces),
      Toml.assignment "read_only".toList (Toml.writeBoolean row.readOnly)]

namespace Report

/-- The lines for the arrays that have no element. -/
def emptyArrays (report : Report) : Text :=
  (if report.cells.isEmpty then Toml.assignment "cells".toList ['[', ']'] else []) ++
    if report.leaves.isEmpty then Toml.assignment "leaves".toList ['[', ']'] else []

/-- The report as a document. -/
def toToml (report : Report) : Text :=
  let head := if report.emptyArrays.isEmpty then [] else [report.emptyArrays]
  Toml.joinBlocks
    (head ++ report.cells.map CellRow.toToml ++ report.leaves.map LeafRow.toToml)

end Report

end NotebookLayout
