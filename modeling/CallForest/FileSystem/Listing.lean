import CallForest.FileSystem.Installed

/-! # Working directories

A file system that consists of little more than its working directory: how it is filled, and what is
found in it.

* `FileSystem.empty`: an empty working directory.
* `FileSystem.place`: puts something there.
* `FileSystem.listing`: everything that is there. -/

namespace CallForest

namespace FileSystem

/-- A system with an empty working directory. -/
def empty : FileSystem where
  entries := (["work"], .directory) :: Installed.entries
  working := ["work"]

/-- Puts an entry where some names lead to from a location, with the directories on the way. -/
def placeAt (entry : FileEntry) (location : Location) : List String → FileSystem → FileSystem
  | [], files => files
  | [last], files => files.put (last :: location) entry
  | next :: more, files =>
    let inner := next :: location
    let files := if (files.entry? inner).isSome then files else files.put inner .directory
    placeAt entry inner more files

/-- Puts an entry into the working directory. -/
def place (files : FileSystem) (path : String) (entry : FileEntry) : FileSystem :=
  placeAt entry files.working ((Path.names path).filter (· ≠ ".")) files

/-- The names that lead from one location to another below it. -/
def namesBelow? (outer location : Location) : Option (List String) :=
  if location.length ≤ outer.length then none
  else
    let depth := location.length - outer.length
    if location.drop depth = outer then some (location.take depth).reverse else none

/-- How an entry of the working directory is shown: the path of a directory ends with a slash. -/
def shown? (files : FileSystem) (location : Location) (entry : FileEntry) :
    Option (String × FileEntry) :=
  (namesBelow? files.working location).map fun names =>
    let path := Path.ofNames false names
    (if entry = .directory then path ++ "/" else path, entry)

/-- **Everything in the working directory**, by path. -/
def listing (files : FileSystem) : List (String × FileEntry) :=
  (files.entries.filterMap fun (location, entry) => files.shown? location entry).mergeSort
    fun (path, _) (other, _) => decide (path ≤ other)

end FileSystem

end CallForest
