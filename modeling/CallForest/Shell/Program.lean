import CallForest.Process.Ending
import CallForest.Process.Image
import CallForest.Shell.CommandReading
import CallForest.Shell.Evaluation
import CallForest.Shell.Tool
import CallForest.Shell.Tool.Environment

/-! # Programs that shells run

A shell reads a text line by line and runs each line before it looks at the next one. A command that
is no command of the shell is a program of the system, which may be a shell again; a task within a
task is run with one step less of a bound.

* `Shell.Runner.text`: runs the commands of a text.
* `Shell.Runner.shell`: the program that is a shell.
* `Shell.Runner.program`: a program in place of the process.
* `Shell.perform`: runs a task.
* `Shell.launch`: launches a program in a file system. -/

namespace CallForest

namespace Shell

/-! ## Texts -/

/-- The next line of a source, with the session as it is after the line has been read. -/
def nextLine (source : Source) : ShellM (Option Command × Source) := do
  let session ← get
  let source := { source with aliases := session.aliases, number := session.documentNumber }
  match readLine.run source with
  | .error misreading =>
    modify fun session => { session with line := misreading.line }
    failText ("Syntax error: " ++ misreading.fault.message)
  | .ok (command?, after) =>
    if session.has 'v' then warn (source.rest.take (source.rest.length - after.rest.length))
    modify fun session =>
      { session with
        documents := after.documents ++ session.documents
        documentNumber := after.number
        readLine := after.line }
    return (command?, { after with documents := [] })

namespace Runner

variable (runner : Runner)

/-- Runs the **commands of a text**. -/
def text (text : Octets) (tested : Bool) : ShellM Nat := do
  let session ← get
  let start := Source.ofText text session.documentNumber session.aliases
  let status ← iterate (return 0) (fun (source, status) => do
    match ← nextLine source with
    | (none, _) => return .inr status
    | (some .nothing, source) => return .inl (source, status)
    | (some command, source) =>
      let status ← runner.run (.command command tested)
      if (← get).skip.isSome then return .inr status else return .inl (source, status))
    (text.length + 2) (start, 0)
  modify fun inner => { inner with readLine := session.readLine }
  return status

/-! ## Shells -/

/-- What a shell is asked to run. -/
structure Request where
  /-- The options that are on. -/
  options : List Char
  /-- Whether the first argument is the text that is run. -/
  inline : Bool
  /-- The arguments. -/
  arguments : List Octets

/-- Turns an option of a shell on or off. -/
def Request.setOption (request : Request) (on : Bool) (option : Char) : Request :=
  let others := request.options.filter (· ≠ option)
  { request with options := if on then option :: others else others }

/-- Reads the letters of an option word, and gives the words behind it. -/
def requestLetters (on : Bool) : Octets → List Octets → Request → ShellM (List Octets × Request)
  | [], words, request => return (words, request)
  | 'c' :: letters, words, request =>
    if on then requestLetters on letters words { request with inline := true }
    else failText "Illegal option +c"
  | 'o' :: letters, words, request => do
    let name := words.headD []
    match optionNames.lookup (String.ofList name) with
    | some letter =>
      requestLetters on letters words.tail (letter.elim request (request.setOption on ·))
    | none => fail ("Illegal option -o ".toList ++ name)
  | letter :: letters, words, request =>
    if optionNames.any (·.2 = some letter) then
      requestLetters on letters words (request.setOption on letter)
    else if letter = 'l' then requestLetters on letters words request
    else fail ("Illegal option ".toList ++ [if on then '-' else '+', letter])

/-- Reads the words of a shell, at most `fuel` of them. -/
def readRequest : Nat → List Octets → Request → ShellM Request
  | 0, words, request => return { request with arguments := words }
  | fuel + 1, words, request => do
    match words with
    | ['-'] :: rest | ['-', '-'] :: rest => return { request with arguments := rest }
    | ('-' :: letters) :: rest =>
      let (rest, request) ← requestLetters true letters rest request
      readRequest fuel rest request
    | ('+' :: letters) :: rest =>
      let (rest, request) ← requestLetters false letters rest request
      readRequest fuel rest request
    | words => return { request with arguments := words }

/-- The session that a shell begins with: of the variables only those are known that are exported.
-/
def Session.begin (session : Session) (name : Octets) : Session :=
  let exported := session.bindings.filter fun (_, known) => known.exported && known.value.isSome
  let inherited := exported.map fun (name, known) => (name, { known with readOnly := false })
  let given := ["IFS", "PS4", "OPTIND", "PWD"].map String.toList
  let own := [("OPTIND", "1"), ("PS4", "+ "), ("IFS", " \t\n")].map fun (name, value) =>
    (name.toList, (⟨some value.toList, false, false⟩ : Variable))
  let own := ("PWD".toList, ⟨some session.directory, true, false⟩) :: own
  { world := session.world, descriptors := session.descriptors
    bindings := own ++ inherited.filter fun (name, _) => !given.contains name
    functions := [], aliases := [], documents := [], documentNumber := 0
    zero := name, arguments := [], options := [], status := 0, substituted := 0
    line := 0, readLine := 1, depth := 0, command := none, skip := none, loops := 0
    traps := session.traps.filter (·.2.isEmpty)
    hidden := [], jobs := [], background := none, mask := session.mask, limits := session.limits
    optionPlace := 0, inner := false
    printed := [], arrived := [] }

/-- The text that a shell is asked to run, with the name of the script and the arguments. -/
def requestedText (name : Octets) (request : Request) : ShellM (Octets × Octets × List Octets) := do
  if request.inline then
    match request.arguments with
    | [] => failText "-c requires an argument"
    | text :: [] => return (text, name, [])
    | text :: name :: arguments => return (text, name, arguments)
  else
    match if request.options.contains 's' then [] else request.arguments with
    | [] => return ((← read 0 none).toOption.getD [], name, request.arguments)
    | script :: arguments =>
      match (← get).world.files.read (Octets.toText script) with
      | .ok content => return (Octets.ofBytes content, script, arguments)
      | .error .isDirectory => return ([], script, arguments)
      | .error fault =>
        fail <| "cannot open ".toList ++ script ++ ": ".toList ++
          (reasonText "No such file" fault).toList

/-- The program that is a **shell**. -/
def shell (words : List Octets) : ShellM Nat := do
  modify fun session => Session.begin session (words.headD [])
  runner.toEnd do
    let request ← readRequest (words.length + 1) words.tail ⟨[], false, []⟩
    let (text, name, arguments) ← requestedText (words.headD []) request
    let direct := !request.inline && request.arguments.isEmpty && !request.options.contains 's'
    let options := if direct then 's' :: request.options else request.options
    modify fun session => { session with options, zero := name, arguments }
    let status ← runner.run (.text text false)
    modify fun session => { session with skip := none }
    return status
  return (← get).status

/-! ## Programs -/

/-- Says why a program cannot be run by another one. -/
def refuseToRun (name program : Octets) (fault : SystemFault) : ShellM Nat := do
  report name (quoted program ++ ": ".toList ++ fault.text.toList)
  if fault = .notFound && program.any isSpace then
    report name "use -[v]S to pass options in shebang lines".toList
  return if fault = .notFound || fault = .notDirectory then 127 else 126

/-- Changes the variables as it is asked for, and says what is done if that is asked for too. Gives
whether that could be done. -/
def changeVariables (name : Octets) (request : Tool.EnvironmentRequest) : ShellM Bool := do
  let say := fun (text : Octets) => if request.given.has 'v' then warn (text ++ ['\n']) else pure ()
  let without := request.given.argumentsOf 'u'
  let exported := (← get).bindings.filter fun (_, known) => known.exported
  if request.bare then
    say "cleaning environ".toList
    modify fun session => { session with bindings := [] }
  else
    for lost in without do
      say ("unset:    ".toList ++ lost)
      if lost.isEmpty || lost.contains '=' then
        report name ("cannot unset ".toList ++ quoted lost ++ ": Invalid argument".toList)
        return false
    modify fun session =>
      { session with bindings := exported.filter fun (name, _) => !without.contains name }
  for word in request.assigned do
    say ("setenv:   ".toList ++ word)
    let target := word.takeWhile (· ≠ '=')
    modify fun session =>
      session.putVariable target ⟨some (word.drop (target.length + 1)), true, false⟩
  return true

/-- Goes to the directory that is asked for, and says what is run if that is asked for too. Gives
whether that could be done. -/
def goAndSay (name : Octets) (request : Tool.EnvironmentRequest) : ShellM Bool := do
  let say := fun (text : Octets) => if request.given.has 'v' then warn (text ++ ['\n']) else pure ()
  match request.given.argument? 'C' with
  | none => pure ()
  | some path =>
    say ("chdir:    ".toList ++ quoted path)
    let session ← get
    match session.world.files.changeDirectory (Octets.toText path) with
    | .ok files => set { session with world := { session.world with files } }
    | .error fault =>
      let _ ← reportFault name ("cannot change directory to ".toList ++ quoted path) fault 125
      return false
  say ("executing: ".toList ++ request.command.headD [])
  for (word, place) in request.command.zipIdx do
    say ("   arg[".toList ++ Octets.ofNat place ++ "]= ".toList ++ quoted word)
  return true

/-- Runs a program with other variables, or prints the variables. -/
def environment (run : Octets → List Octets → ShellM (Except SystemFault Nat))
    (words : List Octets) : ShellM Nat := do
  let name := words.headD []
  match Tool.readEnvironment (← get).value? 1000 [] words.tail with
  | .error (.usage fault) => misuse name fault.text 125
  | .error (.split fault) =>
    report name fault.text
    return 125
  | .ok request =>
    let changed ← changeVariables name request
    if !changed then return 125
    else
      match request.command with
      | [] =>
        if request.given.has 'C' then
          misuse name "must specify command with --chdir (-C)".toList 125
        else
          let ending := if request.given.has '0' then '\x00' else '\n'
          print ((← get).bindings.flatMap fun (name, known) =>
            known.value.elim [] fun value => name ++ '=' :: value ++ [ending])
          return 0
      | program :: arguments =>
        if request.given.has '0' then
          misuse name "cannot specify --null (-0) with command".toList 125
        else if !(← goAndSay name request) then return 125
        else
          match (← get).findProgram program with
          | .program path =>
            match ← run path (program :: arguments) with
            | .ok status => return status
            | .error fault => refuseToRun name program fault
          | .missing fault => refuseToRun name program fault
          | _ => return 0

/-- The statuses of the tools that do not end with one if what they print cannot be written. -/
def lossStatuses : List (String × Nat) :=
  [("ls", 2), ("sort", 2), ("grep", 2), ("sed", 4), ("expr", 3), ("env", 125)]

/-- Runs an image in place of the process, with at most `fuel` programs that run another one. -/
def image : Nat → Image → ShellM Nat
  | 0, _ => return 127
  | fuel + 1, found => do
    if Installed.shells.contains found.program then runner.shell found.words
    else
      let status ←
        if found.program = "env" then
          environment (fun path words => do
            match (← get).world.files.image (Octets.toText path) words with
            | .ok inner => return .ok (← image fuel inner)
            | .error .notProgram =>
              return .ok (← image fuel ⟨"sh", "/bin/sh".toList :: path :: words.tail⟩)
            | .error fault => return .error fault) found.words
        else
          match Tool.find? found.program with
          | some tool => tool found.words
          | none => pure 127
      if ← flush then return status
      else
        reportFault (found.words.headD []) "write error".toList .badDescriptor
          ((lossStatuses.lookup found.program).getD 1)

/-- How many programs can run each other in place of themselves. -/
def imageLimit : Nat := 64

/-- The place of a variable among those that a program gets. -/
def variablePlace (name : Octets) : Nat :=
  name.foldl (fun sum letter => sum + letter.toNat) ((name.headD '\x00').toNat * 16) % 39

/-- Leaves the variables that a program gets, in the order in which it gets them. -/
def exportVariables : ShellM Unit :=
  modify fun session =>
    let exported := session.bindings.filter (·.2.exported)
    let bindings := exported.mergeSort fun (name, _) (other, _) =>
      variablePlace name ≤ variablePlace other
    { session with bindings }

/-- Runs a **program in place of the process**. A file that is no program is taken for a script. -/
def program (path : Octets) (words : List Octets) : ShellM Nat := do
  exportVariables
  let files := (← get).world.files
  match files.image (Octets.toText path) words with
  | .ok image => runner.image imageLimit image
  | .error .notProgram => runner.image imageLimit ⟨"sh", "/bin/sh".toList :: path :: words.tail⟩
  | .error fault =>
    complain (words.headD [] ++ ": ".toList ++ (reasonText "not found" fault).toList)
    return if isMissing fault then 127 else 126

/-- Runs a task. -/
def task : Task → ShellM Nat
  | .command command tested => runner.command command tested
  | .text text tested => runner.text text tested
  | .program path words => runner.program path words

end Runner

/-- How often a loop is repeated at most. -/
def loopLimit : Nat := 300000

/-- How deep tasks are within each other at most. -/
def taskLimit : Nat := 20000

/-- Runs a **task**, with tasks within each other at most `fuel` deep. -/
def perform : Nat → Task → ShellM Nat
  | 0, _ => return 0
  | fuel + 1, task => Runner.task ⟨perform fuel, loopLimit⟩ task

/-! ## Launching -/

/-- What a program leaves behind. -/
structure Remains where
  /-- The files. -/
  files : FileSystem
  /-- How it ended. -/
  report : ProcessReport
  /-- How much of its input it has not read. -/
  unread : Nat

/-- The variables that every program gets. -/
def environment : List (Octets × Variable) :=
  [("HOME", "/root"), ("PATH", "/usr/local/sbin:/usr/local/bin:/usr/sbin:/usr/bin:/sbin:/bin")].map
    fun (name, value) => (name.toList, ⟨some value.toList, true, false⟩)

/-- The world of a program that has just been launched: its input, a sink for what it prints, and
what it reports. -/
def World.begin (files : FileSystem) (input : Bytes) : World :=
  ⟨files, [(0, .supply (Octets.ofBytes input)), (1, .sink), (2, .collection [])], 3, 0, false, [],
    []⟩

/-- **Launches a program** with an input, and waits for its end. -/
def launch (files : FileSystem) (image : Image) (input : Bytes) : Remains :=
  let blank : Session :=
    { world := World.begin files input, descriptors := [(0, 0), (1, 1), (2, 2)],
      bindings := environment
      functions := [], aliases := [], documents := [], documentNumber := 0
      zero := [], arguments := [], options := [], status := 0, substituted := 0
      line := 0, readLine := 1, depth := 0, command := none, skip := none, loops := 0, traps := []
      hidden := [], jobs := [], background := none, mask := 0o022, limits := [], optionPlace := 0
      inner := false, printed := [], arrived := [] }
  let runner : Runner := ⟨perform taskLimit, loopLimit⟩
  let (result, session) := (runner.image Runner.imageLimit image).run.run blank
  let afterwards := do
    runner.settle
    runner.drain 2
  let world := (afterwards.run.run session).2.world
  let ending := match result with
    | .ok status => ProcessEnd.exited status
    | .error (.killed signal) => .killed signal
    | .error _ => .exited session.status
  let left := match world.openings.lookup 0 with
    | some (.supply left) => left.length
    | _ => 0
  ⟨{ world.files with working := files.working },
    ⟨ending, Octets.toBytes (world.collected 2)⟩, left⟩

end Shell

end CallForest
