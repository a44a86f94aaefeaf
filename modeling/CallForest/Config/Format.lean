/-! # Output formats

The formats in which diagrams are written. DOT is the text of a forest itself; the others are
pictures that a layout program draws from it. The name of a format is also the extension of its
files.

* `OutputFormat`, `OutputFormat.name`: the formats and their names.
* `OutputFormat.needsLayout`: whether a layout program draws the format.
* `OutputFormat.ofName?`, `OutputFormat.ofNameAnyCase?`: the format of a name. -/

namespace CallForest

/-- A format in which diagrams are written. -/
inductive OutputFormat where
  /-- The DOT text of a forest, without a layout. -/
  | dot
  /-- Scalable vector graphics. -/
  | svg
  /-- Portable network graphics. -/
  | png
  /-- The portable document format. -/
  | pdf
  deriving DecidableEq, Repr

namespace OutputFormat

/-- The name of a format, which is the extension of its files as well. -/
def name : OutputFormat → String
  | .dot => "dot"
  | .svg => "svg"
  | .png => "png"
  | .pdf => "pdf"

/-- Whether a layout program draws a format. -/
def needsLayout : OutputFormat → Bool
  | .dot => false
  | .svg | .png | .pdf => true

/-- Every format, in the order in which messages list them. -/
def all : List OutputFormat := [.dot, .svg, .png, .pdf]

/-- The format of a name. -/
def ofName? (name : String) : Option OutputFormat :=
  all.find? (·.name = name)

/-- The format of a name whose ASCII letters may be of either case. -/
def ofNameAnyCase? (name : String) : Option OutputFormat :=
  all.find? (·.name.toList = name.toList.map Char.toLower)

/-- Reading the name of a format gives the format back. -/
@[simp] theorem ofName?_name (format : OutputFormat) : ofName? format.name = some format := by
  cases format <;> decide

end OutputFormat

end CallForest
