import CallForest.FileSystem.Basic

/-! # Changes of file systems

What can be done to files and directories that are there.

* `FileSystem.children`, `FileSystem.newestChildren`: the names in a directory.
* `FileSystem.remove`, `FileSystem.removeDirectory`, `FileSystem.removeAll`: files, empty
  directories, and directories with everything in them.
* `FileSystem.rename`: another name for a file or a directory.
* `FileSystem.setExecutable`: whether a file can be launched.
* `FileSystem.changeDirectory`: another working directory. -/

namespace CallForest

namespace FileSystem

/-- The names in a directory, the one that came there last first. -/
def newestChildren (files : FileSystem) (location : Location) : List String :=
  let names := files.entries.filterMap fun (inner, _) =>
    match inner with
    | name :: outer => if outer = location then some name else none
    | [] => none
  names.reverse

/-- The names in a directory, in ascending order. -/
def children (files : FileSystem) (location : Location) : List String :=
  (files.newestChildren location).mergeSort fun name other => decide (name ≤ other)

/-- The location of the directory that a path leads to. -/
def directoryAt (files : FileSystem) (path : String) : Except SystemFault Location :=
  (Path.names path).foldlM files.enter (if Path.isAbsolute path then [] else files.working)

/-- The location that a path leads to, and what is there. -/
def locate (files : FileSystem) (path : String) : Except SystemFault (Location × FileEntry) := do
  match ← files.resolve path with
  | .directory => return (← files.directoryAt path, .directory)
  | .name parent name =>
    match files.entry? (name :: parent) with
    | none => throw .notFound
    | some .directory => return (name :: parent, .directory)
    | some entry =>
      if Path.endsOpen path then throw .notDirectory else return (name :: parent, entry)

/-- Takes an entry away. -/
def erase (files : FileSystem) (location : Location) : FileSystem :=
  { files with entries := files.entries.filter fun (other, _) => other ≠ location }

/-- Whether a location is another one or below it. -/
def isWithin (outer location : Location) : Bool := outer.isSuffixOf location

/-- Takes an entry away, and everything below it. -/
def eraseAll (files : FileSystem) (location : Location) : FileSystem :=
  { files with entries := files.entries.filter fun (other, _) => !isWithin location other }

/-- Removes a file. -/
def remove (files : FileSystem) (path : String) : Except SystemFault FileSystem := do
  match ← files.locate path with
  | (_, .directory) => throw .isDirectory
  | (location, _) => return files.erase location

/-- Removes a directory with nothing in it. -/
def removeDirectory (files : FileSystem) (path : String) : Except SystemFault FileSystem := do
  match ← files.locate path with
  | (location, .directory) =>
    if (Path.names path).getLast? = some "." then throw .invalid
    else if location = [] then throw .busy
    else if !(files.children location).isEmpty then throw .notEmpty
    else return files.erase location
  | _ => throw .notDirectory

/-- Removes a file, or a directory with everything in it. -/
def removeAll (files : FileSystem) (path : String) : Except SystemFault FileSystem := do
  let (location, _) ← files.locate path
  return files.eraseAll location

/-- The location of an entry that has been moved with one that it is within. -/
def moved (source target location : Location) : Location :=
  if isWithin source location then location.take (location.length - source.length) ++ target
  else location

/-- Gives a file or a directory another path. What is under that path is lost, unless it is a
directory with something in it. -/
def rename (files : FileSystem) (source target : String) : Except SystemFault FileSystem := do
  let (location, entry) ← files.locate source
  if (← files.resolve source) = .directory then throw .busy
  match ← files.resolve target with
  | .directory => throw .notEmpty
  | .name parent name =>
    let there := name :: parent
    if isWithin location there && location ≠ there then throw .invalid
    match files.entry? there, entry with
    | some .directory, .directory => if !(files.children there).isEmpty then throw .notEmpty
    | some .directory, _ => throw .isDirectory
    | some _, .directory => throw .notDirectory
    | _, _ => if entry ≠ .directory && Path.endsOpen target then throw .notDirectory
    if location = there then return files
    let files := files.erase there
    let entries := files.entries.map fun (other, entry) => (moved location there other, entry)
    let (newest, others) := entries.partition fun (other, _) => other = there
    return ⟨others ++ newest, moved location there files.working⟩

/-- Says whether a file can be launched. -/
def setExecutable (files : FileSystem) (path : String) (executable : Bool) :
    Except SystemFault FileSystem := do
  match ← files.locate path with
  | (location, .file content _) => return files.put location (.file content executable)
  | _ => return files

/-- Makes another directory the working one. -/
def changeDirectory (files : FileSystem) (path : String) : Except SystemFault FileSystem := do
  match ← files.locate path with
  | (location, .directory) => return { files with working := location }
  | _ => throw .notDirectory

end FileSystem

end CallForest
