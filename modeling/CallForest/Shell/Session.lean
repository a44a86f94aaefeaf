import CallForest.FileSystem.Change
import CallForest.FileSystem.Installed
import CallForest.Process.Ending
import CallForest.Shell.Syntax

/-! # Sessions of a shell

What a running script has at hand. The files and the open streams are those of all processes; the
rest belongs to one process, and a process that begins gets a copy of it.

* `Shell.Process`, `Shell.Waiting`: what belongs to one process, and one that goes on later.
* `Shell.Opening`, `Shell.World`: open streams, and what all processes share.
* `Shell.Session`: what a process has at hand.
* `Shell.Departure`, `Shell.ShellM`: what a process can do, and how it ends before its end.
* `Shell.complain`, `Shell.fail`: reports. -/

namespace CallForest

namespace Shell

/-! ## Processes -/

/-- A variable. -/
structure Variable where
  /-- Its value, if it has one. -/
  value : Option Octets
  /-- Whether other programs get it. -/
  exported : Bool
  /-- Whether it keeps its value for ever. -/
  readOnly : Bool
  deriving DecidableEq, Repr

/-- Why commands are passed over. -/
inductive Skip where
  /-- Loops are left, as many as given. -/
  | leave (loops : Nat)
  /-- Loops are left but for the last one, which goes on. -/
  | resume (loops : Nat)
  /-- The function is left. -/
  | return
  deriving DecidableEq, Repr

/-- A process that was begun and not waited for, as the one that began it knows it. -/
structure Job where
  /-- The number that it is called by. -/
  place : Nat
  /-- The number of the process. -/
  process : Nat
  /-- How many commands it consists of. -/
  commands : Nat
  /-- Whether its end has been asked for. -/
  awaited : Bool
  deriving DecidableEq, Repr

/-- A limit on what a process uses. -/
structure Limit where
  /-- The value that is in force. -/
  soft : Nat
  /-- The value that bounds it. -/
  hard : Nat
  deriving DecidableEq, Repr

/-- The value of what is not limited. -/
def Limit.none : Nat := 18446744073709551615

/-- What belongs to one process. -/
structure Process where
  /-- The streams of the descriptors. -/
  descriptors : List (Nat × Nat)
  /-- The variables. -/
  bindings : List (Octets × Variable)
  /-- The functions, with the lines on which they begin. -/
  functions : List (Octets × Nat × Command)
  /-- The texts that stand for names of commands. -/
  aliases : List (Octets × Octets)
  /-- The documents of scripts that have been read. -/
  documents : List (Nat × Word)
  /-- The number of the next document. -/
  documentNumber : Nat
  /-- The name that the script was called by. -/
  zero : Octets
  /-- The arguments of the script or of the function. -/
  arguments : List Octets
  /-- The options that are on. -/
  options : List Char
  /-- The status of the last command. -/
  status : Nat
  /-- The status of the last command whose output was substituted. -/
  substituted : Nat
  /-- The line of the command that is run. -/
  line : Nat
  /-- The line that is read next. -/
  readLine : Nat
  /-- How many functions are being run within each other. -/
  depth : Nat
  /-- The command that reports are about. -/
  command : Option Octets
  /-- Why commands are passed over, if they are. -/
  skip : Option Skip
  /-- How many loops there are. -/
  loops : Nat
  /-- What is done when a signal arrives, or at the end. -/
  traps : List (Signal × Octets)
  /-- The variables that functions hide. -/
  hidden : List (List (Octets × Option Variable))
  /-- The processes that it began and did not wait for, the last one first. -/
  jobs : List Job
  /-- The number of the last process that was begun and not waited for. -/
  background : Option Nat
  /-- The permissions that new files do not get. -/
  mask : Nat
  /-- The limits that have been changed, by the letters of their options. -/
  limits : List (Char × Limit)
  /-- How far an argument has been read as options. -/
  optionPlace : Nat
  /-- Whether the process is a shell in a shell. -/
  inner : Bool
  /-- What has been printed and not been written yet, the last piece first. -/
  printed : List Octets
  /-- The signals that have arrived and have not been answered yet. -/
  arrived : List Signal

/-- A process that goes on when nobody else does anything. -/
structure Waiting where
  /-- Its number. -/
  number : Nat
  /-- What belongs to it. -/
  process : Process
  /-- Its working directory. -/
  working : Location
  /-- What it still does. -/
  command : Command
  /-- When it goes on. -/
  due : Nat

/-! ## Streams -/

/-- An open stream. -/
inductive Opening where
  /-- The end of a pipe that is read, with what is left in it. -/
  | supply (left : Octets)
  /-- The end of a pipe that is written, with what has been written, the last piece first. -/
  | collection (pieces : List Octets)
  /-- A place in a file. -/
  | file (location : Location) (place : Nat) (readable writable appending : Bool)
  /-- A device that takes whatever is written to it, and holds nothing. -/
  | sink
  /-- A directory. -/
  | directory

/-- What all processes share. -/
structure World where
  /-- The file system. -/
  files : FileSystem
  /-- The streams by their numbers. -/
  openings : List (Nat × Opening)
  /-- The number of the next stream. -/
  next : Nat
  /-- The time that has passed, in millionths of a second. -/
  clock : Nat
  /-- Whether a process is at work that nobody waits for. -/
  ahead : Bool
  /-- The processes that nobody waits for and that have not ended. -/
  waiting : List Waiting
  /-- How the processes ended that nobody waited for. -/
  ended : List (Nat × ProcessEnd)

namespace World

/-- The world with one more stream, and its number. -/
def opened (world : World) (opening : Opening) : Nat × World :=
  (world.next,
    { world with openings := (world.next, opening) :: world.openings, next := world.next + 1 })

/-- Replaces a stream. -/
def replaceIn (number : Nat) (opening : Opening) : List (Nat × Opening) → List (Nat × Opening)
  | [] => []
  | (other, old) :: rest =>
    if other = number then (other, opening) :: rest
    else (other, old) :: replaceIn number opening rest

/-- The world with another stream in place of one. -/
def update (world : World) (number : Nat) (opening : Opening) : World :=
  { world with openings := replaceIn number opening world.openings }

/-- The content of the file at a location. -/
def content (world : World) (location : Location) : Bytes :=
  match world.files.entry? location with
  | some (.file content _) => content
  | _ => []

/-- Some bytes with others from a place on. -/
def splice (content : Bytes) (place : Nat) (bytes : Bytes) : Bytes :=
  let front := content.take place
  let gap := List.replicate (place - front.length) (0 : UInt8)
  front ++ gap ++ bytes ++ content.drop (place + bytes.length)

/-- The world in which the streams of files are at other locations. -/
def relocated (world : World) (move : Location → Location) : World :=
  let openings := world.openings.map fun (number, opening) =>
    match opening with
    | .file location place readable writable appending =>
      (number, .file (move location) place readable writable appending)
    | other => (number, other)
  { world with openings }

/-- The world in which a file that has lost its location is still there for its streams, at a
location that no path leads to. -/
def keeping (world : World) (location : Location) (entry : FileEntry) : World :=
  let isOpen := world.openings.any fun (_, opening) =>
    match opening with
    | .file other .. => other = location
    | _ => false
  if isOpen then
    let kept : Location := [toString world.next, "\x00"]
    let world := world.relocated fun other => if other = location then kept else other
    { world with files := world.files.put kept entry, next := world.next + 1 }
  else world

/-- Removes a file. -/
def remove (world : World) (path : String) : Except SystemFault World := do
  let (location, entry) ← world.files.locate path
  let files ← world.files.remove path
  return { world with files }.keeping location entry

/-- Gives a file or a directory another path. -/
def rename (world : World) (source target : String) : Except SystemFault World := do
  let (location, _) ← world.files.locate source
  let there := (world.files.locate target).toOption
  let files ← world.files.rename source target
  let (goal, _) ← files.locate target
  let world := { world with files }
  let world := match there with
    | some (lost, entry) => if lost = location then world else world.keeping lost entry
    | none => world
  return world.relocated (FileSystem.moved location goal)

/-- What has been written to a stream that collects it. -/
def collected (world : World) (number : Nat) : Octets :=
  match world.openings.lookup number with
  | some (.collection pieces) => pieces.reverse.flatten
  | _ => []

end World

/-! ## Sessions -/

/-- What a process has at hand. -/
structure Session extends Process where
  /-- What all processes share. -/
  world : World

/-- How a process ends before its end. -/
inductive Departure where
  /-- It has been told to. -/
  | exit
  /-- It cannot go on. -/
  | fault
  /-- A signal of a number has ended it. -/
  | killed (signal : Nat)
  deriving DecidableEq, Repr

/-- What a process can do. -/
abbrev ShellM := ExceptT Departure (StateM Session)

/-- The first word of a message of the shell. -/
def Session.place (session : Session) : Octets :=
  session.zero ++ ": ".toList ++ Octets.ofNat session.line ++ ": ".toList ++
    (session.command.elim [] (· ++ ": ".toList))

/-! ## Writing -/

/-- The world after bytes have been written to a stream. -/
def World.write (world : World) (number : Nat) (text : Octets) : Except SystemFault World :=
  match world.openings.lookup number with
  | some (.collection pieces) => .ok (world.update number (.collection (text :: pieces)))
  | some .sink => .ok world
  | some (.file location place readable true appending) =>
    match if text.isEmpty then none else world.files.entry? location with
    | some (.file content executable) =>
      let place := if appending then content.length else place
      let content := World.splice content place (Octets.toBytes text)
      let files := world.files.put location (.file content executable)
      let moved := Opening.file location (place + text.length) readable true appending
      .ok ({ world with files }.update number moved)
    | _ => .ok world
  | _ => .error .badDescriptor

/-- Writes to a descriptor. -/
def write (descriptor : Nat) (text : Octets) : ShellM (Except SystemFault Unit) := do
  let session ← get
  match session.descriptors.lookup descriptor with
  | none => return .error .badDescriptor
  | some number =>
    match session.world.write number text with
    | .error fault => return .error fault
    | .ok world =>
      set { session with world }
      return .ok ()

/-- Prints on the standard output, to which it is written when the command ends. -/
def print (text : Octets) : ShellM Unit :=
  modify fun session => { session with printed := text :: session.printed }

/-- Writes what has been printed, and says whether that could be done. -/
def flush : ShellM Bool := do
  let text := (← get).printed.reverse.flatten
  modify fun session => { session with printed := [] }
  if text.isEmpty then return true else return (← write 1 text).isOk

/-- Writes to the standard error, if that can be written to. -/
def warn (text : Octets) : ShellM Unit := do
  let _ ← write 2 text

/-- Reports something about the command that is run. -/
def complain (text : Octets) : ShellM Unit := do
  warn ((← get).place ++ text ++ ['\n'])

/-- Reports something about the command that is run, and cannot go on. -/
def fail {α : Type} (text : Octets) : ShellM α := do
  complain text
  modify fun session => { session with status := 2 }
  throw .fault

/-- Reports a fault in plain words, and cannot go on. -/
def failText {α : Type} (text : String) : ShellM α := fail text.toList

/-! ## Reading -/

/-- The world after a stream has been read, at most `limit` bytes, and what has been read. -/
def World.read (world : World) (number : Nat) (limit : Option Nat) :
    Except SystemFault (Octets × World) :=
  let cut := fun (text : Octets) => limit.elim text text.take
  match world.openings.lookup number with
  | some (.supply left) =>
    let taken := cut left
    .ok (taken, world.update number (.supply (left.drop taken.length)))
  | some .sink => .ok ([], world)
  | some (.file location place true writable appending) =>
    let taken := cut (Octets.ofBytes ((world.content location).drop place))
    let moved := Opening.file location (place + taken.length) true writable appending
    .ok (taken, world.update number moved)
  | some .directory => .error .isDirectory
  | _ => .error .badDescriptor

/-- Reads from a descriptor, at most `limit` bytes. -/
def read (descriptor : Nat) (limit : Option Nat) : ShellM (Except SystemFault Octets) := do
  let session ← get
  match session.descriptors.lookup descriptor with
  | none => return .error .badDescriptor
  | some number =>
    match session.world.read number limit with
    | .error fault => return .error fault
    | .ok (text, world) =>
      set { session with world }
      return .ok text

/-! ## Opening -/

/-- The descriptor whose stream a path leads to. -/
def streamOf? (path : String) : Option Nat :=
  match path with
  | "/dev/stdin" => some 0
  | "/dev/stdout" => some 1
  | "/dev/stderr" => some 2
  | _ =>
    let digits := path.toList.drop 8
    if "/dev/fd/".toList.isPrefixOf path.toList && !digits.isEmpty && digits.all Char.isDigit then
      some (digits.foldl (fun value digit => value * 10 + (digit.toNat - '0'.toNat)) 0)
    else none

/-- The stream of a file. -/
def World.openFile (world : World) (path : String) (mode : OpenMode) (keep : Bool) :
    Except SystemFault (Nat × World) := do
  let readable := mode = .input || mode = .both
  let opening := fun (location : Location) =>
    Opening.file location 0 readable (mode ≠ .input) (mode = .append)
  match mode with
  | .input =>
    match ← world.files.locate path with
    | (_, .directory) => return world.opened .directory
    | (_, .sink) => return world.opened .sink
    | (location, _) => return world.opened (opening location)
  | mode =>
    match world.files.locate path with
    | .ok (_, .sink) => return world.opened .sink
    | .ok (location, .file _ _) =>
      if keep && mode = .output then throw .alreadyThere
      let clear := mode = .output || mode = .overwrite
      let files ← world.files.modify path fun content => if clear then [] else content
      return { world with files }.opened (opening location)
    | .ok _ | .error .notFound =>
      let files ← world.files.modify path id
      let (location, _) ← files.locate path
      return { world with files }.opened (opening location)
    | .error fault => throw fault

/-- Opens a file, and gives the number of its stream. -/
def openFile (path : String) (mode : OpenMode) : ShellM (Except SystemFault Nat) := do
  let session ← get
  let keep := session.options.contains 'C'
  let descriptor? := streamOf? path
  match descriptor?, descriptor?.bind (session.descriptors.lookup ·) with
  | some _, none => return .error .notFound
  | _, some number =>
    match session.world.openings.lookup number with
    | some (.file location _ _ _ _) =>
      let path := Path.ofNames true location.reverse
      match session.world.openFile path mode keep with
      | .error fault => return .error fault
      | .ok (number, world) =>
        set { session with world }
        return .ok number
    | _ => return .ok number
  | none, none =>
    match session.world.openFile path mode keep with
    | .error fault => return .error fault
    | .ok (number, world) =>
      set { session with world }
      return .ok number

/-- Gives a descriptor another stream. -/
def connect (descriptor number : Nat) : ShellM Unit :=
  modify fun session =>
    { session with
      descriptors := (descriptor, number) :: session.descriptors.filter (·.1 ≠ descriptor) }

/-- Takes the stream of a descriptor away. -/
def disconnect (descriptor : Nat) : ShellM Unit :=
  modify fun session =>
    { session with descriptors := session.descriptors.filter (·.1 ≠ descriptor) }

/-- Opens a stream that is no file, and gives its number. -/
def openStream (opening : Opening) : ShellM Nat := do
  let session ← get
  let (number, world) := session.world.opened opening
  set { session with world }
  return number

/-! ## Variables -/

namespace Session

/-- The value of a variable. -/
def value? (session : Session) (name : Octets) : Option Octets :=
  (session.bindings.lookup name).bind Variable.value

/-- The number of the first process. -/
def firstNumber : Nat := 4711

/-- The number of the process as a text. -/
def identity : Octets := Octets.ofNat firstNumber

/-- Whether an option is on. -/
def has (session : Session) (option : Char) : Bool := session.options.contains option

/-- The characters that separate words. -/
def separators (session : Session) : Octets := (session.value? "IFS".toList).getD [' ', '\t', '\n']

/-- The session with another variable of a name. -/
def putVariable (session : Session) (name : Octets) (new : Variable) : Session :=
  if (session.bindings.lookup name).isSome then
    let bindings := session.bindings.map fun (other, known) =>
      (other, if other = name then new else known)
    { session with bindings }
  else { session with bindings := session.bindings ++ [(name, new)] }

end Session

/-- Gives a value to a variable, which other programs get from then on if it is to be exported. -/
def assign (name value : Octets) (exported : Bool) : ShellM Unit := do
  let session ← get
  let old := (session.bindings.lookup name).getD ⟨none, false, false⟩
  if old.readOnly then fail (name ++ ": is read only".toList)
  else
    let exported := exported || old.exported || session.has 'a'
    set (session.putVariable name ⟨some value, exported, false⟩)
    if name = "OPTIND".toList then modify fun session => { session with optionPlace := 0 }

/-- Takes a variable away. -/
def unassign (name : Octets) : ShellM Unit := do
  let session ← get
  match session.bindings.lookup name with
  | some old =>
    if old.readOnly then fail (name ++ ": is read only".toList)
    else set { session with bindings := session.bindings.filter (·.1 ≠ name) }
  | none => return

/-! ## Processes -/

/-- What is left of a process in the one that waits for it: the files and the streams. -/
def Session.join (outer inner : Session) : Session :=
  let files := { inner.world.files with working := outer.world.files.working }
  { outer with world := { inner.world with files } }

/-- What a process has at hand when another one begins it: it answers signals as usual unless
nothing is to be done about them. -/
def Process.child (process : Process) : Process :=
  { process with
    traps := process.traps.filter (·.2.isEmpty)
    inner := true, skip := none, jobs := [], printed := [] }

/-- Runs something in a process of its own, and gives the status that it ends with. If a signal ends
it, that is reported. -/
def inProcess (body : ShellM Unit) : ShellM Nat := do
  let outer ← get
  let (result, inner) := body.run.run ⟨outer.toProcess.child, outer.world⟩
  set (outer.join inner)
  match result with
  | .error (.killed signal) =>
    if Signal.isDescribed signal then warn ((Signal.description signal).toList ++ ['\n'])
    return 128 + signal
  | _ => return inner.status

/-- Runs something, and gives what it ended with and whether it ended early. -/
def attempt {α : Type} (body : ShellM α) : ShellM (Except Departure α) := fun session =>
  match body.run.run session with
  | (result, session) => (.ok result, session)

end Shell

end CallForest
