import CallForest.Shell.Builtin.Control
import CallForest.Shell.Tool.Basic

/-! # Tools on paths

* `Shell.Tool.lastName`, `Shell.Tool.directoryName`: the parts of a path.
* `Shell.Tool.basename`, `Shell.Tool.dirname`: print them.
* `Shell.Tool.pwd`: prints the path of the working directory. -/

namespace CallForest

namespace Shell

namespace Tool

/-! ## Parts -/

/-- A path without slashes at its end. -/
def withoutSlashes (path : Octets) : Octets :=
  let stripped := (path.reverse.dropWhile (· = '/')).reverse
  if stripped.isEmpty then path.take 1 else stripped

/-- The last name of a path. -/
def lastName (path : Octets) : Octets :=
  let path := withoutSlashes path
  if path = ['/'] then path else (path.reverse.takeWhile (· ≠ '/')).reverse

/-- The path of the directory that the last name of a path is in. -/
def directoryName (path : Octets) : Octets :=
  let path := withoutSlashes path
  let front := (path.reverse.dropWhile (· ≠ '/')).reverse
  if front.isEmpty then (if path = ['/'] then path else ['.']) else withoutSlashes front

/-- The path of a name in a directory. -/
def pathIn (directory name : Octets) : Octets :=
  (if directory.getLast? = some '/' then directory else directory ++ ['/']) ++ name

/-- A name without an ending, unless it is nothing else. -/
def withoutEnding (ending name : Octets) : Octets :=
  if ending.isSuffixOf name && ending.length < name.length then
    name.take (name.length - ending.length)
  else name

/-! ## Printing them -/

/-- How last names are printed. -/
def basenameUsage : Usage where
  plain := ['a', 'z']
  valued := ['s']
  long := [("multiple", 'a'), ("suffix", 's'), ("zero", 'z')]
  ordered := true

/-- Prints the last names of paths. -/
def basename : Tool := fun words =>
  basenameUsage.run words fun name given => do
    let shown := fun (ending path : Octets) =>
      withoutEnding ending (lastName path) ++ [if given.has 'z' then '\x00' else '\n']
    let ending := (given.argument? 's').getD []
    if given.arguments.isEmpty then lacksOperand name
    else if given.has 'a' || given.has 's' then
      print (given.arguments.flatMap (shown ending))
      return 0
    else
      match given.arguments with
      | _ :: _ :: extra :: _ => extraOperand name extra
      | path :: endings =>
        print (shown (endings.headD []) path)
        return 0
      | [] => return 0

/-- How directories of paths are printed. -/
def dirnameUsage : Usage where
  plain := ['z']
  long := [("zero", 'z')]

/-- Prints the directories of paths. -/
def dirname : Tool := fun words =>
  dirnameUsage.run words fun name given => do
    if given.arguments.isEmpty then lacksOperand name
    else
      let ending := if given.has 'z' then '\x00' else '\n'
      print (given.arguments.flatMap fun path => directoryName path ++ [ending])
      return 0

/-! ## The working directory -/

/-- How the path of the working directory is printed. -/
def pwdUsage : Usage where
  plain := ['L', 'P']
  long := [("physical", 'P'), ("logical", 'L')]

/-- Prints the path of the working directory. -/
def pwd : Tool := fun words =>
  pwdUsage.run words fun name given => do
    if !given.arguments.isEmpty then report name "ignoring non-option arguments".toList
    print ((← get).directory ++ ['\n'])
    return 0

end Tool

end Shell

end CallForest
