import NotebookLayout.Arithmetic
import NotebookLayout.Bisect
import NotebookLayout.Cell.MarkerLine
import NotebookLayout.Cell.Split
import NotebookLayout.Command.Arguments
import NotebookLayout.Command.Run
import NotebookLayout.Document.Basic
import NotebookLayout.Document.Line
import NotebookLayout.Document.LineIndex
import NotebookLayout.Document.Metrics
import NotebookLayout.Files
import NotebookLayout.Leaf.Basic
import NotebookLayout.Leaf.Build
import NotebookLayout.Leaf.Chain
import NotebookLayout.Leaf.Check
import NotebookLayout.Leaf.Columns
import NotebookLayout.Leaf.Gap
import NotebookLayout.Leaf.Indent
import NotebookLayout.Leaf.Position
import NotebookLayout.Main
import NotebookLayout.Partition.Basic
import NotebookLayout.Partition.Check
import NotebookLayout.Partition.Split
import NotebookLayout.Path
import NotebookLayout.Proofs.Cell.Append
import NotebookLayout.Proofs.Cell.LineEnds
import NotebookLayout.Proofs.Cell.MarkerLine
import NotebookLayout.Proofs.Cell.Split
import NotebookLayout.Proofs.Cell.Terminator
import NotebookLayout.Proofs.Document.Geometry
import NotebookLayout.Proofs.Document.LineEnds
import NotebookLayout.Proofs.Document.Lines
import NotebookLayout.Proofs.Document.Preview
import NotebookLayout.Proofs.Files
import NotebookLayout.Proofs.Leaf.Build
import NotebookLayout.Proofs.Leaf.ChainCounters
import NotebookLayout.Proofs.Leaf.Cover
import NotebookLayout.Proofs.Leaf.Disposal
import NotebookLayout.Proofs.Leaf.Ends
import NotebookLayout.Proofs.Leaf.Forward
import NotebookLayout.Proofs.Leaf.Frame
import NotebookLayout.Proofs.Leaf.Gap
import NotebookLayout.Proofs.Leaf.GapCounters
import NotebookLayout.Proofs.Leaf.Lifetime
import NotebookLayout.Proofs.Leaf.Links
import NotebookLayout.Proofs.Leaf.Lookup
import NotebookLayout.Proofs.Leaf.Measure
import NotebookLayout.Proofs.Leaf.Multiline
import NotebookLayout.Proofs.Leaf.Position
import NotebookLayout.Proofs.Leaf.ReadOnly
import NotebookLayout.Proofs.Leaf.Run
import NotebookLayout.Proofs.Leaf.Survivors
import NotebookLayout.Proofs.Leaf.Trail
import NotebookLayout.Proofs.Leaf.Walk
import NotebookLayout.Proofs.Partition.Cover
import NotebookLayout.Proofs.Partition.Lookup
import NotebookLayout.Proofs.Partition.Markers
import NotebookLayout.Proofs.Partition.Order
import NotebookLayout.Proofs.Report.LineEnds
import NotebookLayout.Proofs.Report.Order
import NotebookLayout.Proofs.Report.Render
import NotebookLayout.Proofs.Report.RowCounters
import NotebookLayout.Proofs.Report.Rows
import NotebookLayout.Proofs.Result
import NotebookLayout.Proofs.Settings
import NotebookLayout.Proofs.Span
import NotebookLayout.Proofs.Text.Quoted
import NotebookLayout.Proofs.Text.Trim
import NotebookLayout.Proofs.Token.Lexeme
import NotebookLayout.Proofs.Token.LineEnds
import NotebookLayout.Proofs.Token.Next
import NotebookLayout.Proofs.Token.Tiling
import NotebookLayout.Proofs.Token.Tokens
import NotebookLayout.Proofs.Toml.Entry
import NotebookLayout.Proofs.Toml.String
import NotebookLayout.Report.Basic
import NotebookLayout.Report.Row
import NotebookLayout.Report.Toml
import NotebookLayout.Settings
import NotebookLayout.Span
import NotebookLayout.Text.Basic
import NotebookLayout.Text.Blank
import NotebookLayout.Text.CodeRange
import NotebookLayout.Text.Fullwidth
import NotebookLayout.Text.Numeral
import NotebookLayout.Text.Quoted
import NotebookLayout.Text.Unprintable
import NotebookLayout.Token.Basic
import NotebookLayout.Token.Lexeme
import NotebookLayout.Toml.Reader
import NotebookLayout.Toml.Scalar
import NotebookLayout.Toml.StringReader
import NotebookLayout.Toml.StringStyle
import NotebookLayout.Toml.StringWriter
import NotebookLayout.Toml.Table
