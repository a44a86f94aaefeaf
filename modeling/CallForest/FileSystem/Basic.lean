import CallForest.FileSystem.Fault
import CallForest.FileSystem.Path
import CallForest.Text.Utf8

/-! # File systems

A tree of directories and files with a working directory, as far as a run can see it. Paths are
walked name by name: a name must be found in a directory, a dot stays, two dots lead back.

* `FileSystem`: directories and files by their locations.
* `FileSystem.resolve`: where a path ends.
* `FileSystem.read`, `FileSystem.write`, `FileSystem.append`: whole files.
* `FileSystem.makeDirectory`, `FileSystem.makeDirectories`: a directory, and with all directories
  that lead to it. -/

namespace CallForest

/-- A location: the names that lead to it from the root, the last one first. -/
abbrev Location := List String

/-- What is at a location. -/
inductive FileEntry where
  /-- A directory. -/
  | directory
  /-- A file. -/
  | file (content : Bytes) (executable : Bool)
  /-- A device that takes whatever is written to it, and holds nothing. -/
  | sink
  /-- A program of the system. -/
  | program (name : String)
  deriving DecidableEq, Repr

/-- A **file system** with a working directory. -/
structure FileSystem where
  /-- What is at which location, apart from the root. -/
  entries : List (Location × FileEntry)
  /-- The working directory. -/
  working : Location
  deriving DecidableEq, Repr

namespace FileSystem

/-! ## Locations -/

/-- What is at a location. The root is a directory. -/
def entry? (files : FileSystem) (location : Location) : Option FileEntry :=
  if location = [] then some .directory else files.entries.lookup location

/-- The entries with one of them replaced, or one more. -/
def replace (location : Location) (entry : FileEntry) :
    List (Location × FileEntry) → List (Location × FileEntry)
  | [] => [(location, entry)]
  | (other, old) :: rest =>
    if other = location then (location, entry) :: rest
    else (other, old) :: replace location entry rest

/-- Puts an entry at a location. -/
def put (files : FileSystem) (location : Location) (entry : FileEntry) : FileSystem :=
  { files with entries := replace location entry files.entries }

/-- Where a path ends. -/
inductive Target where
  /-- At a directory that the path does not name. -/
  | directory
  /-- At a name inside a directory. -/
  | name (parent : Location) (name : String)
  deriving DecidableEq, Repr

/-- The most bytes that a name may have. -/
def nameLimit : Nat := 255

/-- The number of bytes that a path must stay below. -/
def pathLimit : Nat := 4096

/-- Enters a directory by its name. -/
def enter (files : FileSystem) (location : Location) (name : String) :
    Except SystemFault Location :=
  if name = "." then .ok location
  else if name = ".." then .ok location.tail
  else if nameLimit < name.utf8ByteSize then .error .nameTooLong
  else
    match files.entry? (name :: location) with
    | none => .error .notFound
    | some .directory => .ok (name :: location)
    | some _ => .error .notDirectory

/-- Walks along the names of a path. -/
def walk (files : FileSystem) (location : Location) : List String → Except SystemFault Target
  | [] => .ok .directory
  | [last] =>
    if last = "." || last = ".." then .ok .directory
    else if nameLimit < last.utf8ByteSize then .error .nameTooLong
    else .ok (.name location last)
  | next :: more => do walk files (← files.enter location next) more

/-- **Where a path ends.** -/
def resolve (files : FileSystem) (path : String) : Except SystemFault Target :=
  if path.toList.contains '\x00' then .error .nulInPath
  else if path = "" then .error .notFound
  else if pathLimit ≤ path.utf8ByteSize then .error .nameTooLong
  else files.walk (if Path.isAbsolute path then [] else files.working) (Path.names path)

/-! ## Files -/

/-- What a path leads to. Only to a directory a path may end with a slash. -/
def find (files : FileSystem) (path : String) : Except SystemFault FileEntry := do
  match ← files.resolve path with
  | .directory => return .directory
  | .name parent name =>
    match files.entry? (name :: parent) with
    | none => throw .notFound
    | some .directory => return .directory
    | some entry => if Path.endsOpen path then throw .notDirectory else return entry

/-- Whether a path leads to a directory. -/
def isDirectory (files : FileSystem) (path : String) : Bool :=
  match files.find path with
  | .ok .directory => true
  | _ => false

/-- The content of a file. -/
def read (files : FileSystem) (path : String) : Except SystemFault Bytes := do
  match ← files.find path with
  | .directory => throw .isDirectory
  | .file content _ => return content
  | .sink | .program _ => return []

/-- Changes the content of a file, which is created empty if it is not there. -/
def modify (files : FileSystem) (path : String) (change : Bytes → Bytes) :
    Except SystemFault FileSystem := do
  match ← files.resolve path with
  | .directory => throw .isDirectory
  | .name parent name =>
    if Path.endsOpen path then throw .isDirectory
    match files.entry? (name :: parent) with
    | none => return files.put (name :: parent) (.file (change []) false)
    | some .directory => throw .isDirectory
    | some (.file content executable) =>
      return files.put (name :: parent) (.file (change content) executable)
    | some .sink => return files
    | some (.program _) => throw .denied

/-- Writes a file, whose former content is lost. -/
def write (files : FileSystem) (path : String) (content : Bytes) : Except SystemFault FileSystem :=
  files.modify path fun _ => content

/-- Appends to a file. -/
def append (files : FileSystem) (path : String) (content : Bytes) : Except SystemFault FileSystem :=
  files.modify path (· ++ content)

/-! ## Directories -/

/-- Makes a directory inside one that is there. -/
def makeDirectory (files : FileSystem) (path : String) : Except SystemFault FileSystem := do
  match ← files.resolve path with
  | .directory => throw .alreadyThere
  | .name parent name =>
    match files.entry? (name :: parent) with
    | none => return files.put (name :: parent) .directory
    | some _ => throw .alreadyThere

/-- Makes a directory, which may be there already. -/
def ensureDirectory (files : FileSystem) (path : String) : FileSystem × Except SystemFault Unit :=
  match files.makeDirectory path with
  | .ok files => (files, .ok ())
  | .error fault => (files, if files.isDirectory path then .ok () else .error fault)

/-- Makes the directory of a path, first trying it alone, and with the directories above it if one
of them is missing. -/
def ensureBelow (above : FileSystem → FileSystem × Except SystemFault Unit) (path : String)
    (files : FileSystem) : FileSystem × Except SystemFault Unit :=
  match files.makeDirectory path with
  | .ok files => (files, .ok ())
  | .error .notFound =>
    match above files with
    | (files, .ok ()) => files.ensureDirectory path
    | (files, .error fault) => (files, .error fault)
  | .error fault => (files, if files.isDirectory path then .ok () else .error fault)

/-- Makes the directory that some names lead to, the last name first. No names lead to a directory
that is there. -/
def ensureNames (absolute : Bool) : List String → FileSystem → FileSystem × Except SystemFault Unit
  | [] => fun files => (files, .ok ())
  | last :: outer =>
    ensureBelow (ensureNames absolute outer) (Path.ofNames absolute (last :: outer).reverse)

/-- The names of a path without those that stay where they are. One in front of a relative path is
kept. -/
def plainNames (path : String) : List String :=
  match Path.names path with
  | [] => []
  | first :: rest =>
    (if first = "." && Path.isAbsolute path then [] else [first]) ++ rest.filter (· ≠ ".")

/-- Makes the **directory of a path and all directories that lead to it**. What has been made stays
when a later one fails. -/
def makeDirectories (files : FileSystem) (path : String) : FileSystem × Except SystemFault Unit :=
  if path = "" then (files, .ok ())
  else
    ensureBelow (ensureNames (Path.isAbsolute path) (plainNames path).reverse.tail) path files

end FileSystem

end CallForest
