import CallForest.Layout.Launch

/-! # Hosts

What a run asks of the system around it: to look a variable of its environment up, to read files, to
make directories, to write files and to launch programs. A run is written for any host, so that it
can work on the files of a machine as well as on a file system that is a value.

* `Host`: the requests of a run, answered in a monad.
* `FileSystem.host`: the host that is a file system. -/

namespace CallForest

/-- The requests of a run, answered in a monad. -/
structure Host (m : Type → Type) where
  /-- The value of a variable of the environment, if it has one that is a text. -/
  environment : String → m (Option String)
  /-- The content of a file. -/
  read : String → m (Except SystemFault Bytes)
  /-- Makes a directory and all directories that lead to it, unless they are there. -/
  makeDirectories : String → m (Except SystemFault Unit)
  /-- Writes a text to a file. -/
  write : String → String → m (Except SystemFault Unit)
  /-- Launches a program with a text as its input, and waits for its end. -/
  launch : LayoutCommand → String → m (Except SystemFault ProcessReport)

namespace FileSystem

/-- Changes a file system, unless that fails. -/
def attempt (change : FileSystem → Except SystemFault FileSystem) :
    StateM FileSystem (Except SystemFault Unit) := fun files =>
  match change files with
  | .ok files => (.ok (), files)
  | .error fault => (.error fault, files)

/-- The **host that is a file system**. No variable of its environment has a value. -/
def host : Host (StateM FileSystem) where
  environment _ := fun files => (none, files)
  read path := fun files => (files.read path, files)
  makeDirectories path := fun files => (files.makeDirectories path).swap
  write path text := attempt (·.write path (Bytes.ofText text))
  launch command input := fun files => (files.launch command (Bytes.ofText input)).swap

end FileSystem

end CallForest
