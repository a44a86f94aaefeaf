import CallForest.FileSystem.Path

/-! # Diagrams in files

The diagram of a region is written to a file of the output directory that is named for the region.
Slashes of either kind are replaced in that name, so that the file lands in the directory itself.

* `Diagram.stem`: the name of a region without slashes.
* `Diagram.fileName`, `Diagram.path`: the file of a region's diagram, and its path. -/

namespace CallForest

namespace Diagram

/-- The character that stands for a character of a region's name. -/
def stemChar (character : Char) : Char :=
  if character = '/' || character = '\\' then '_' else character

/-- The name of a region without slashes. -/
def stem (region : String) : String := String.ofList (region.toList.map stemChar)

/-- The name of the file that a region's diagram is written to. -/
def fileName (region extension : String) : String :=
  stem region ++ ".callgraph." ++ extension

/-- The **path of a region's diagram**. -/
def path (directory region extension : String) : String :=
  Path.join directory (fileName region extension)

end Diagram

end CallForest
