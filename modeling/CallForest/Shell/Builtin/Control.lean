import CallForest.Shell.Builtin.Options
import CallForest.Shell.Builtin.Variables
import CallForest.Shell.Lookup

/-! # Commands on the process

The process goes to another directory, says what is done when signals arrive, leaves loops and
functions, and ends.

* `Shell.changeDirectory`, `Shell.printDirectory`: the working directory.
* `Shell.trap`: signals.
* `Shell.leaveLoops`, `Shell.returnFrom`, `Shell.exit`: ends.
* `Shell.describeEach`: what names are found to be. -/

namespace CallForest

namespace Shell

/-! ## The working directory -/

/-- The path of the working directory. -/
def Session.directory (session : Session) : Octets :=
  Octets.ofText (Path.ofNames true session.world.files.working.reverse)

/-- Goes to another directory: a given one, that of the user, or for a dash the last one. -/
def changeDirectory (words : List Octets) : ShellM Nat := do
  let given ← optionsOf ['L', 'P'] [] words
  let session ← get
  let (target, shown) :=
    match given.arguments with
    | [] => ((session.value? "HOME".toList).getD [], false)
    | ['-'] :: _ => ((session.value? "OLDPWD".toList).getD [], true)
    | target :: _ => (target, false)
  let target := if target.isEmpty then ['.'] else target
  match session.world.files.changeDirectory (Octets.toText target) with
  | .error _ => fail ("can't cd to ".toList ++ target)
  | .ok files =>
    let old := session.directory
    set { session with world := { session.world with files } }
    assign "OLDPWD".toList old true
    assign "PWD".toList (← get).directory true
    if shown then print ((← get).directory ++ ['\n'])
    return 0

/-- Prints the path of the working directory. -/
def printDirectory (words : List Octets) : ShellM Nat := do
  let _ ← optionsOf ['L', 'P'] [] words
  print ((← get).directory ++ ['\n'])
  return 0

/-! ## Signals -/

/-- The signal of a number or of a name, none below `least` by its name. -/
def signal? (least : Signal) (word : Octets) : Option Signal :=
  if !word.isEmpty && word.all Char.isDigit then
    let number := digitsValue 10 word
    if number < Signal.names.length then some number else none
  else (Signal.ofName? (String.ofList (word.map Char.toUpper))).filter (least ≤ ·)

/-- Prints what is done when signals arrive. -/
def printTraps : ShellM Nat := do
  let session ← get
  for (name, signal) in Signal.names.zipIdx do
    match session.traps.lookup signal with
    | some action =>
      print ("trap -- ".toList ++ quotedForShell action ++ ' ' :: name.toList ++ ['\n'])
    | none => pure ()
  return 0

/-- Says what is done when signals arrive. -/
def trapEach (action : Octets) : List Octets → ShellM Nat
  | [] => return 0
  | name :: names => do
    match signal? 0 name with
    | none =>
      warn ("trap: ".toList ++ name ++ ": bad trap\n".toList)
      return 1
    | some signal =>
      modify fun session =>
        let others := session.traps.filter (·.1 ≠ signal)
        { session with traps := if action = ['-'] then others else (signal, action) :: others }
      trapEach action names

/-- Says what is done when signals arrive, or prints it. -/
def trap (words : List Octets) : ShellM Nat := do
  match (← optionsOf [] [] words).arguments with
  | [] => printTraps
  | [name] => trapEach ['-'] [name]
  | first :: rest =>
    if !first.isEmpty && first.all Char.isDigit && (signal? 0 first).isSome then
      trapEach ['-'] (first :: rest)
    else trapEach first rest

/-! ## Ends -/

/-- Leaves loops, or goes on with the last of them. -/
def leaveLoops (skip : Nat → Skip) (words : List Octets) : ShellM Nat := do
  let count ← match words with
    | [] => pure 1
    | word :: _ => do
      let count ← numberOf word
      if count = 0 then fail ("Illegal number: ".toList ++ word) else pure count
  let count := min count (← get).loops
  if 0 < count then modify fun session => { session with skip := some (skip count) }
  return 0

/-- Leaves the function or the script. -/
def returnFrom (words : List Octets) : ShellM Nat := do
  let status ← match words with
    | [] => pure (← get).status
    | word :: _ => numberOf word
  modify fun session => { session with skip := some .return }
  return status

/-- Ends the process. -/
def exit (words : List Octets) : ShellM Nat := do
  match words with
  | [] => pure ()
  | word :: _ =>
    let status ← numberOf word
    modify fun session => { session with status := status % 256 }
  throw .exit

/-! ## Names -/

/-- Describes what names are found to be. -/
def describeEach (words : List Octets) : ShellM Nat := do
  let mut status := 0
  for word in words do
    let (text, found) := (← get).describe word
    print text
    status := max status found
  return status

/-- Looks names up, and reports those that are not found. -/
def remember (words : List Octets) : ShellM Nat := do
  let given ← optionsOf ['r'] [] words
  let mut status := 0
  for word in given.arguments do
    match (← get).find true word with
    | .missing fault =>
      complain (word ++ ": ".toList ++ (reasonText "not found" fault).toList)
      status := 1
    | _ => pure ()
  return status

/-- Prints where commands are found, or describes them if that is asked for. -/
def whereIs (described : Bool) (words : List Octets) : ShellM Nat := do
  match words with
  | [] => return 0
  | word :: _ =>
    if described then describeEach [word]
    else
      match (← get).pathOrName word with
      | some text =>
        print text
        return 0
      | none => return 127

/-! ## Times -/

/-- Prints times, of which none has been spent. -/
def times (_ : List Octets) : ShellM Nat := do
  print "0m0.000000s 0m0.000000s\n0m0.000000s 0m0.000000s\n".toList
  return 0

end Shell

end CallForest
