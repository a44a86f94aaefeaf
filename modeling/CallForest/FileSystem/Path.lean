/-! # Paths

A path is a text; its names are separated by slashes. Nothing about a path is normalised until the
file system walks along it.

* `Path.join`: the path of a name inside a directory.
* `Path.names`: the names of a path.
* `Path.isAbsolute`, `Path.endsOpen`: paths that begin and that end with a slash. -/

namespace CallForest

namespace Path

/-- The character between the names of a path. -/
def separator : Char := '/'

/-- Whether a path begins with a slash. -/
def isAbsolute (path : String) : Bool := path.toList.head? = some separator

/-- Whether a path ends with a slash. -/
def endsOpen (path : String) : Bool := path.toList.getLast? = some separator

/-- The path of a name inside a directory. The empty directory is the working one. -/
def join (directory name : String) : String :=
  if directory = "" || endsOpen directory then directory ++ name else directory ++ "/" ++ name

/-- The pieces between the slashes of a path, of which `current` begins the first one. -/
def pieces (current : List Char) : List Char → List (List Char)
  | [] => [current]
  | first :: rest =>
    if first = separator then current :: pieces [] rest else pieces (current ++ [first]) rest

/-- The **names** of a path. Slashes in a row count as one. -/
def names (path : String) : List String :=
  ((pieces [] path.toList).filter (· ≠ [])).map String.ofList

/-- The path of some names, beginning with a slash if it is absolute. -/
def ofNames (absolute : Bool) (names : List String) : String :=
  (if absolute then "/" else "") ++ String.intercalate "/" names

end Path

end CallForest
