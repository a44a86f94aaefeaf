import CallForest.Config.Format

/-! # Layout commands

A layout program is run with the format and the path of the picture as its arguments; it reads the
DOT text from its standard input.

* `LayoutCommand`: a program with its arguments.
* `LayoutCommand.of`: the command that draws a picture. -/

namespace CallForest

/-- A program with its arguments. -/
structure LayoutCommand where
  /-- The program. -/
  program : String
  /-- Its arguments. -/
  arguments : List String
  deriving DecidableEq, Repr

/-- The command that draws a picture of a format into the file of a path. -/
def LayoutCommand.of (program : String) (format : OutputFormat) (path : String) : LayoutCommand :=
  ⟨program, ["-T" ++ format.name, "-o", path]⟩

end CallForest
