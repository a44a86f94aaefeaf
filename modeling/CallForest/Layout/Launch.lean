import CallForest.Layout.Command
import CallForest.Process.Ending
import CallForest.Shell.Program

/-! # Launching layout programs

A program with a slash in its name is looked for under that path, any other one in the directories
of programs. It reads its input from its standard input; what it prints is lost, and what it reports
is collected.

A layout program may be a script. What a script does is said in `CallForest.Shell`, whose modules
only serve runs with a layout program; runs that write DOT texts do not come here.

* `FileSystem.programImage`: where a program is found.
* `FileSystem.launch`: launches a program in a file system. -/

namespace CallForest

/-- Whether a command holds the character that ends texts. -/
def LayoutCommand.holdsNul (command : LayoutCommand) : Bool :=
  (command.program :: command.arguments).any (·.toList.contains '\x00')

namespace FileSystem

/-- How much of an input a program that does not read it can be given. -/
def pipeCapacity : Nat := 65536

/-- The image of a program of a name, looked for in one directory after the other. What is found but
cannot be run is passed over, and remembered as `fault`. -/
def searchImage (files : FileSystem) (name : String) (words : List Octets) (fault : SystemFault) :
    List String → Except SystemFault Image
  | [] => .error fault
  | directory :: rest =>
    match files.image (Path.join directory name) words with
    | .ok image => .ok image
    | .error .denied => searchImage files name words .denied rest
    | .error .notFound | .error .notDirectory => searchImage files name words fault rest
    | .error fault => .error fault

/-- The **image of a program**, given by its path or by its name alone. -/
def programImage (files : FileSystem) (name : String) (words : List Octets) :
    Except SystemFault Image :=
  if name.toList.contains Path.separator then files.image name words
  else if name.isEmpty then .error .notFound
  else if nameLimit < name.utf8ByteSize then .error .nameTooLong
  else files.searchImage name words .notFound Installed.searched

/-- **Launches a program** with an input, and waits for its end. A program that succeeds must have
read the input but for what a pipe holds. -/
def launch (files : FileSystem) (command : LayoutCommand) (input : Bytes) :
    FileSystem × Except SystemFault ProcessReport :=
  if command.holdsNul then (files, .error .nulInCommand)
  else
    let words := (command.program :: command.arguments).map Octets.ofText
    match files.programImage command.program words with
    | .error fault => (files, .error fault)
    | .ok image =>
      let ended := Shell.launch files image input
      if ended.report.ending.isSuccess && pipeCapacity < ended.unread then
        (ended.files, .error .brokenPipe)
      else (ended.files, .ok ended.report)

end FileSystem

end CallForest
