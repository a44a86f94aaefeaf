import CallForest.Analysis.Caption
import CallForest.Analysis.Document
import CallForest.Analysis.Drawing
import CallForest.Analysis.File
import CallForest.Analysis.Schema
import CallForest.CommandLine.Arguments
import CallForest.CommandLine.Reading
import CallForest.Config.Basic
import CallForest.Config.File
import CallForest.Config.Format
import CallForest.Config.Reading
import CallForest.Config.Setting
import CallForest.Decimal.Binary64
import CallForest.Decimal.Shortest
import CallForest.FileSystem.Basic
import CallForest.FileSystem.Change
import CallForest.FileSystem.Fault
import CallForest.FileSystem.Installed
import CallForest.FileSystem.Listing
import CallForest.FileSystem.Path
import CallForest.Forest.Basic
import CallForest.Forest.Dot
import CallForest.Forest.Expansion
import CallForest.Forest.Grove
import CallForest.Graph.Attributes
import CallForest.Graph.Basic
import CallForest.Host
import CallForest.Json.Enclosed
import CallForest.Json.Fault
import CallForest.Json.Numeral
import CallForest.Json.Passing
import CallForest.Json.Record
import CallForest.Json.Text
import CallForest.Json.Token
import CallForest.Json.Value
import CallForest.Layout.Command
import CallForest.Layout.Launch
import CallForest.Log.Filter
import CallForest.Process.Ending
import CallForest.Process.Image
import CallForest.Process.Signal
import CallForest.Program
import CallForest.Proofs.Analysis.Drawing
import CallForest.Proofs.Analysis.Reading
import CallForest.Proofs.Analysis.Schema
import CallForest.Proofs.FileSystem.Directory
import CallForest.Proofs.FileSystem.Host
import CallForest.Proofs.FileSystem.Path
import CallForest.Proofs.FileSystem.Presence
import CallForest.Proofs.Forest.DotLine
import CallForest.Proofs.Forest.DotText
import CallForest.Proofs.Forest.Expansion
import CallForest.Proofs.Forest.Numbering
import CallForest.Proofs.Forest.Paths
import CallForest.Proofs.Forest.Preorder
import CallForest.Proofs.Forest.Shape
import CallForest.Proofs.Forest.Unfolding
import CallForest.Proofs.Graph.Cycle
import CallForest.Proofs.Graph.History
import CallForest.Proofs.Graph.Operation
import CallForest.Proofs.Graph.Walk
import CallForest.Proofs.Graph.WellFormed
import CallForest.Proofs.Json.Alike
import CallForest.Proofs.Json.Compact
import CallForest.Proofs.Json.Enclosed
import CallForest.Proofs.Json.Outcome
import CallForest.Proofs.Json.Passing
import CallForest.Proofs.Json.Record
import CallForest.Proofs.Json.Scalar
import CallForest.Proofs.Json.Text
import CallForest.Proofs.Json.Tree
import CallForest.Proofs.Json.Value
import CallForest.Proofs.Json.View
import CallForest.Proofs.ListSplit
import CallForest.Proofs.Program
import CallForest.Proofs.Render.Order
import CallForest.Proofs.Render.Outcome
import CallForest.Proofs.Render.Plan
import CallForest.Proofs.Render.Presence
import CallForest.Proofs.Render.Run
import CallForest.Proofs.Render.Separation
import CallForest.Proofs.Render.System
import CallForest.Proofs.Text.Bytes
import CallForest.Proofs.Text.Escape
import CallForest.Proofs.Text.Utf8
import CallForest.Render.Diagram
import CallForest.Render.Error
import CallForest.Render.Run
import CallForest.Shell.Arithmetic
import CallForest.Shell.Builtin.Control
import CallForest.Shell.Builtin.Jobs
import CallForest.Shell.Builtin.Limits
import CallForest.Shell.Builtin.Mask
import CallForest.Shell.Builtin.Options
import CallForest.Shell.Builtin.Output
import CallForest.Shell.Builtin.Variables
import CallForest.Shell.CommandReading
import CallForest.Shell.Condition
import CallForest.Shell.Conversion
import CallForest.Shell.Edit.Line
import CallForest.Shell.Edit.Reading
import CallForest.Shell.Edit.Script
import CallForest.Shell.Escape
import CallForest.Shell.Evaluation
import CallForest.Shell.Expansion
import CallForest.Shell.Field
import CallForest.Shell.Job
import CallForest.Shell.Lookup
import CallForest.Shell.Numeral
import CallForest.Shell.Pattern
import CallForest.Shell.Program
import CallForest.Shell.Regular
import CallForest.Shell.Regular.Bracket
import CallForest.Shell.Regular.Reading
import CallForest.Shell.Runner
import CallForest.Shell.Session
import CallForest.Shell.Source
import CallForest.Shell.Syntax
import CallForest.Shell.Tool
import CallForest.Shell.Tool.Alike
import CallForest.Shell.Tool.Backwards
import CallForest.Shell.Tool.Basic
import CallForest.Shell.Tool.Column
import CallForest.Shell.Tool.Copy
import CallForest.Shell.Tool.Edit
import CallForest.Shell.Tool.Environment
import CallForest.Shell.Tool.Exchange
import CallForest.Shell.Tool.Listing
import CallForest.Shell.Tool.Make
import CallForest.Shell.Tool.Mode
import CallForest.Shell.Tool.Order
import CallForest.Shell.Tool.Path
import CallForest.Shell.Tool.Portion
import CallForest.Shell.Tool.Question
import CallForest.Shell.Tool.Remove
import CallForest.Shell.Tool.Search
import CallForest.Shell.Tool.Series
import CallForest.Shell.Tool.Size
import CallForest.Shell.Tool.Sort
import CallForest.Shell.Tool.Transfer
import CallForest.Shell.Tool.Value
import CallForest.Shell.WordReading
import CallForest.Step
import CallForest.Text.Alphanumeric
import CallForest.Text.Blank
import CallForest.Text.Escape
import CallForest.Text.Glyphless
import CallForest.Text.Octets
import CallForest.Text.Quoted
import CallForest.Text.Utf8
import CallForest.Toml.Document
import CallForest.Toml.Key
import CallForest.Toml.Line
import CallForest.Toml.Moment
import CallForest.Toml.Numeral
import CallForest.Toml.Scalar
import CallForest.Toml.Span
import CallForest.Toml.Table
import CallForest.Toml.Text
import CallForest.Toml.Value
import CallForest.Main
import CallForest.Proofs.Forest.ReportedCycle
import CallForest.Proofs.Forest.Counting
import CallForest.Proofs.Analysis.Inclusion
import CallForest.Proofs.Forest.Copies
import CallForest.Proofs.Graph.Index
import CallForest.Proofs.Graph.Roots
import CallForest.Proofs.Render.FileName
import CallForest.Proofs.Render.Ownership
import CallForest.Proofs.Render.Requests
import CallForest.Proofs.Forest.Growing
import CallForest.Proofs.Forest.Search
import CallForest.Proofs.Log.Filter
import CallForest.Proofs.Toml.Grammar
import CallForest.Proofs.Toml.Text
import CallForest.Proofs.Toml.Numeral
import CallForest.Proofs.Toml.Line
import CallForest.Proofs.Toml.Document
import CallForest.Proofs.Config.Settings
import CallForest.Proofs.CommandLine.Grammar
import CallForest.Proofs.CommandLine.Reading
import CallForest.Proofs.Config.Layering
import CallForest.Proofs.Config.Writing
import CallForest.Proofs.Text.Closing

/-! # Call forests

A program that reads an analysis document, expands the call graph of each of its regions into a
forest, and writes the forests as diagrams. `CallForest.Program` is the program; it works on any
`CallForest.Host`. What is proved about it is in `CallForest.Proofs`, in modules named like those
they are about.

Pictures are drawn by a layout program, which may be any script. `CallForest.Shell`,
`CallForest.Process` and `CallForest.Layout` say what becomes of it, so that a run can be evaluated
with a layout program as well. The modules of the shell only serve such runs, and nothing is proved
about them: DOT texts are written without a layout program, and where pictures are asked for the
results hold whatever a host answers. -/
