import CallForest.FileSystem.Basic

/-! # What is installed

The directories, devices and programs that are there before anything else is. A program is found by
its name alone if it is in one of the directories that are searched.

* `Installed.names`: the programs.
* `Installed.entries`: everything that is there.
* `FileSystem.search`: where the program of a name is. -/

namespace CallForest

namespace Installed

/-- The programs that are shells. -/
def shells : List String := ["sh", "dash"]

/-- The programs that are no shells. -/
def tools : List String :=
  ["[", "basename", "cat", "chmod", "cp", "cut", "dirname", "echo", "env", "expr", "false", "grep",
    "head", "ls", "mkdir", "mv", "printf", "pwd", "rev", "rm", "rmdir", "sed", "seq", "sleep",
    "sort", "tac", "tail", "tee", "test", "touch", "tr", "true", "uniq", "wc"]

/-- The names of the programs. -/
def names : List String := shells ++ tools

/-- The directories. -/
def directories : List Location :=
  [["bin"], ["dev"], ["etc"], ["root"], ["tmp"], ["usr"], ["bin", "usr"]]

/-- Everything that is installed. -/
def entries : List (Location × FileEntry) :=
  directories.map (·, .directory) ++ [(["null", "dev"], .sink)] ++
    names.map (fun name => ([name, "bin", "usr"], .program name)) ++
    names.map fun name => ([name, "bin"], .program name)

/-- The directories that are searched for a program. -/
def searched : List String := ["/usr/bin", "/bin"]

end Installed

namespace FileSystem

/-- Whether a path leads to something that can be launched. -/
def isExecutable (files : FileSystem) (path : String) : Bool :=
  match files.find path with
  | .ok (.file _ executable) => executable
  | .ok (.program _) => true
  | _ => false

/-- The **path of the program of a name**, looked for in one directory after the other. What is
found but cannot be launched is passed over, and remembered as `fault`. -/
def search (files : FileSystem) (name : String) (fault : SystemFault) :
    List String → Except SystemFault String
  | [] => .error fault
  | directory :: rest =>
    let path := Path.join directory name
    match files.find path with
    | .ok (.program _) | .ok (.file _ true) => .ok path
    | .ok _ => search files name .denied rest
    | .error .notFound | .error .notDirectory => search files name fault rest
    | .error other => search files name other rest

end FileSystem

end CallForest
