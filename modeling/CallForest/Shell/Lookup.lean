import CallForest.Shell.CommandReading
import CallForest.Shell.Session

/-! # Looking up commands

The name of a command is looked for among the special commands of the shell, the functions, the
other commands of the shell and the programs, in this order.

* `Shell.Found`: what a name is found to be.
* `Shell.Session.find`: looks a name up.
* `Shell.Session.describe`, `Shell.Session.pathOrName`: how the result is shown. -/

namespace CallForest

namespace Shell

/-- The commands of the shell that are not special. -/
def regularNames : List String :=
  ["alias", "bg", "cd", "chdir", "command", "echo", "false", "fg", "getopts", "hash", "jobs",
    "kill", "printf", "pwd", "read", "test", "[", "true", "type", "ulimit", "umask", "unalias",
    "wait"]

/-- The special commands of the shell. -/
def allSpecialNames : List String := "local" :: specialNames

/-- Why a file cannot be opened or run; `missing` is said of one that is not there. -/
def reasonText (missing : String) (fault : SystemFault) : String :=
  if fault = .notFound || fault = .notDirectory then missing else fault.text

/-- Whether a program that cannot be run for some reason is taken to be missing. -/
def isMissing (fault : SystemFault) : Bool :=
  [.notFound, .notDirectory, .tooManyLinks, .nameTooLong].contains fault

/-- What a name is found to be. -/
inductive Found where
  /-- A special command of the shell. -/
  | special
  /-- A function, with the line on which it begins. -/
  | function (line : Nat) (body : Command)
  /-- A command of the shell. -/
  | regular
  /-- A program. -/
  | program (path : Octets)
  /-- Nothing that can be run, and why. -/
  | missing (fault : SystemFault)

namespace Session

/-- The directories in which programs are looked for. -/
def directories (session : Session) : List String :=
  match session.value? "PATH".toList with
  | none => Installed.searched
  | some text => (text.splitOn ':').map fun part => if part.isEmpty then "." else Octets.toText part

/-- The program of a name. -/
def findProgram (session : Session) (name : Octets) : Found :=
  if name.contains '/' then .program name
  else
    match session.world.files.search (Octets.toText name) .notFound session.directories with
    | .ok path => .program (Octets.ofText path)
    | .error fault => .missing fault

/-- What the **name of a command** is, with functions passed over unless they are wanted. -/
def find (session : Session) (functions : Bool) (name : Octets) : Found :=
  let text := String.ofList name
  if allSpecialNames.contains text then .special
  else
    match if functions then session.functions.lookup name else none with
    | some (line, body) => .function line body
    | none => if regularNames.contains text then .regular else session.findProgram name

/-- How a name is described, and the status of the description. -/
def describe (session : Session) (name : Octets) : Octets × Nat :=
  let plain := fun (text : String) => (name ++ text.toList ++ ['\n'], 0)
  if keywords.contains (String.ofList name) then plain " is a shell keyword"
  else
    match session.aliases.lookup name with
    | some value => (name ++ " is an alias for ".toList ++ value ++ ['\n'], 0)
    | none =>
      match session.find true name with
      | .special => plain " is a special shell builtin"
      | .function _ _ => plain " is a shell function"
      | .regular => plain " is a shell builtin"
      | .program path =>
        if session.world.files.isExecutable (Octets.toText path) then
          (name ++ " is ".toList ++ path ++ ['\n'], 0)
        else (name ++ ": not found\n".toList, 127)
      | .missing _ => (name ++ ": not found\n".toList, 127)

/-- The path of a program, or the name of anything else that is found. -/
def pathOrName (session : Session) (name : Octets) : Option Octets :=
  if keywords.contains (String.ofList name) then some (name ++ ['\n'])
  else
    match session.aliases.lookup name with
    | some value => some ("alias ".toList ++ name ++ "='".toList ++ value ++ "'\n".toList)
    | none =>
      match session.find true name with
      | .missing _ => none
      | .program path =>
        if session.world.files.isExecutable (Octets.toText path) then some (path ++ ['\n'])
        else none
      | _ => some (name ++ ['\n'])

end Session

end Shell

end CallForest
