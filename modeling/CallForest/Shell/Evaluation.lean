import CallForest.Shell.Builtin.Jobs
import CallForest.Shell.Builtin.Limits
import CallForest.Shell.Builtin.Mask
import CallForest.Shell.Builtin.Output
import CallForest.Shell.Condition
import CallForest.Shell.Runner

/-! # Running commands

What a command does to its session. A command that holds other commands has them run as tasks, so
this module says nothing about how deep commands are in each other.

* `Shell.Runner.redirecting`: runs something with other streams.
* `Shell.Runner.simple`: a simple command.
* `Shell.Runner.command`: a command of any kind. -/

namespace CallForest

namespace Shell

namespace Runner

variable (runner : Runner)

/-! ## Words and signals -/

/-- How words are expanded. -/
def expander : Expander := ⟨runner.capture⟩

/-- Answers the signals that have arrived. -/
def answer : ShellM Unit := do
  let session ← get
  for signal in session.arrived do
    modify fun session => { session with arrived := session.arrived.drop 1 }
    let status := (← get).status
    let _ ← runner.run (.text (((← get).traps.lookup signal).getD []) false)
    modify fun session => { session with status }

/-! ## Streams -/

/-- A redirection whose word is expanded. -/
inductive Redirected where
  /-- The stream is a file. -/
  | file (descriptor : Nat) (mode : OpenMode) (path : Octets)
  /-- The stream is that of another descriptor. -/
  | copy (descriptor source : Nat)
  /-- There is no stream. -/
  | close (descriptor : Nat)
  /-- The stream is a document, given by its number. -/
  | document (descriptor number : Nat)

/-- Reports that a word is no descriptor, on the line that is read next. -/
def refuseDescriptor : ShellM Redirected := do
  modify fun session => { session with line := session.readLine }
  failText ("Syntax error: " ++ SyntaxFault.badDescriptor.message)

/-- Expands the words of a redirection. -/
def resolve : Redirection → ShellM Redirected
  | .file descriptor mode path => do return .file descriptor mode (← runner.expander.text path)
  | .copy descriptor source => do
    match ← runner.expander.text source with
    | ['-'] => return .close descriptor
    | [digit] =>
      if digit.isDigit then return .copy descriptor (digit.toNat - '0'.toNat) else refuseDescriptor
    | _ => refuseDescriptor
  | .document descriptor number => return .document descriptor number

/-- Redirects a stream. If it is `kept` to be put back, what goes wrong with it cannot be reported
to it. -/
def redirect (kept : Bool) : Redirected → ShellM Unit
  | .file descriptor mode path => do
    match ← openFile (Octets.toText path) mode with
    | .ok number => connect descriptor number
    | .error fault =>
      let (action, missing) :=
        if mode = .input then ("open", "No such file") else ("create", "Directory nonexistent")
      fail <| "cannot ".toList ++ action.toList ++ ' ' :: path ++ ": ".toList ++
        (reasonText missing fault).toList
  | .copy descriptor source => do
    match (← get).descriptors.lookup source with
    | some number => connect descriptor number
    | none =>
      if kept then disconnect descriptor
      fail (Octets.ofNat source ++ ": Bad file descriptor".toList)
  | .close descriptor => disconnect descriptor
  | .document descriptor number => do
    let word := ((← get).documents.lookup number).getD []
    let content := textOf (← runner.expander.items ⟨false, false⟩ word)
    connect descriptor (← openStream (.supply content))

/-- Redirects streams one after the other, and says whether that could be done. -/
def redirectAll (kept : Bool) (redirections : List Redirected) : ShellM Bool := do
  return (← attempt (redirections.forM (runner.redirect kept))).isOk

/-- Ends the process if a command has failed that is not tested. -/
def checked (tested : Bool) (body : ShellM Nat) : ShellM Nat := do
  let status ← body
  modify fun session => { session with status }
  if status ≠ 0 && !tested && (← get).has 'e' then throw .exit else return status

/-- Runs something with redirections, and with the streams as they were behind it. -/
def redirecting (redirections : List Redirection) (tested : Bool) (body : ShellM Nat) :
    ShellM Nat := do
  let redirected ← redirections.mapM runner.resolve
  let descriptors := (← get).descriptors
  if ← runner.redirectAll true redirected then
    let result ← attempt body
    modify fun session => { session with descriptors }
    match result with
    | .ok status => return status
    | .error departure => throw departure
  else
    modify fun session => { session with descriptors }
    checked tested (return 2)

/-! ## Simple commands -/

/-- Expands words up to the first one that becomes fields. Gives the words behind it. -/
def firstFields : List Word → ShellM (List Octets × List Word)
  | [] => return ([], [])
  | first :: rest => do
    let fields ← runner.expander.fieldsOfWord first
    if fields.isEmpty then firstFields rest else return (fields, rest)

/-- Expands the arguments of a command, which may be assignments. -/
def argumentFields (assigning : Bool) : List Word → ShellM (List Octets)
  | [] => return []
  | first :: rest => do
    let fields ← match if assigning then wordAssignment? first else none with
      | some (name, value) => pure [name ++ '=' :: (← runner.expander.assigned value)]
      | none => runner.expander.fieldsOfWord first
    return fields ++ (← argumentFields assigning rest)

/-- Whether the arguments of a command may be assignments. -/
def assigns (name : Octets) (behind : List Word) : Bool :=
  let names := name :: behind.map fun word => (plain? word).getD []
  let meant := names.dropWhile fun name =>
    name = "command".toList || name = "-p".toList || name = ['-', '-']
  (meant.head?.map String.ofList).any ["export", "readonly", "local", "alias"].contains

/-- What is meant by a command that asks for another one: its words, if it is run. -/
def meantBy : Nat → List Octets → Option (List Octets)
  | 0, _ => none
  | fuel + 1, words =>
    match words with
    | ['-', '-'] :: rest => if rest.isEmpty then none else some rest
    | ['-', 'p'] :: rest => meantBy fuel rest
    | ('-' :: _) :: _ | [] => none
    | words => some words

/-- A command as it is run. -/
structure Invocation where
  /-- Its words. -/
  words : List Octets
  /-- What its name is found to be. -/
  found : Found
  /-- Whether its faults end the process. -/
  special : Bool

/-- Finds the command that words stand for. One that is asked for by another one is no function, and
its faults do not end the process. -/
def invocation (session : Session) : Nat → Bool → List Octets → Invocation
  | 0, _, words => ⟨words, .missing .notFound, false⟩
  | fuel + 1, direct, words =>
    let name := words.headD []
    let found := session.find direct name
    let meant := if name = "command".toList then meantBy (words.length + 1) words.tail else none
    match found, meant with
    | .regular, some words => invocation session fuel false words
    | .special, _ => ⟨words, .special, direct⟩
    | found, _ => ⟨words, found, false⟩

/-- Shows a command that is about to be run. -/
def trace (descriptors : List (Nat × Nat)) (words : List Octets) : ShellM Unit := do
  let session ← get
  if session.has 'x' then
    let front := (session.value? "PS4".toList).getD []
    let line := front ++ [' '].intercalate words ++ ['\n']
    match (descriptors.lookup 2).map (session.world.write · line) with
    | some (.ok world) => set { session with world }
    | _ => return

/-- Runs the commands of some words as a text. -/
def eval (tested : Bool) (words : List Octets) : ShellM Nat :=
  runner.run (.text ([' '].intercalate words) tested)

/-- Runs the commands of a file. -/
def source (words : List Octets) : ShellM Nat := do
  let given ← optionsOf [] [] words
  match given.arguments with
  | [] => return 0
  | name :: _ =>
    let session ← get
    let files := session.world.files
    let readable := fun (path : String) =>
      match files.find path with
      | .ok (.file _ _) => true
      | _ => false
    let path? :=
      if name.contains '/' then some (Octets.toText name)
      else (session.directories.map (Path.join · (Octets.toText name))).find? readable
    match path? with
    | none => fail (name ++ ": not found".toList)
    | some path =>
      match if files.isDirectory path then .ok [] else files.read path with
      | .error fault =>
        fail ("cannot open ".toList ++ name ++ ": ".toList ++
          (reasonText "No such file" fault).toList)
      | .ok content =>
        modify fun session => { session with command := some (Octets.ofText path) }
        let status ← runner.run (.text (Octets.ofBytes content) false)
        modify fun session =>
          { session with skip := session.skip.filter (· ≠ .return) }
        return status

/-- Puts a program in place of the process. -/
def «exec» (words : List Octets) : ShellM Nat := do
  match words with
  | [] => return 0
  | name :: _ =>
    match (← get).findProgram name with
    | .program path =>
      modify fun session => { session with traps := [] }
      let status ← runner.run (.program path words)
      modify fun session => { session with status }
      throw .exit
    | .missing fault =>
      complain (name ++ ": ".toList ++ (reasonText "not found" fault).toList)
      modify fun session => { session with status := if isMissing fault then 127 else 126 }
      throw .exit
    | _ => return 0

/-- Runs a command of the shell. -/
def builtin (tested : Bool) (name : String) (words : List Octets) : ShellM Nat :=
  match name with
  | ":" | "true" => return 0
  | "false" => return 1
  | "." => runner.source words
  | "eval" => runner.eval tested words
  | "exec" => runner.exec words
  | "break" => leaveLoops .leave words
  | "continue" => leaveLoops .resume words
  | "exit" => exit words
  | "export" => «export» words
  | "local" => «local» words
  | "readonly" => «readonly» words
  | "return" => returnFrom words
  | "set" => setOptions words
  | "shift" => shift words
  | "times" => times words
  | "trap" => trap words
  | "unset" => unset words
  | "alias" => «alias» words
  | "cd" | "chdir" => changeDirectory words
  | "command" => do
    let given ← optionsOf ['p', 'v', 'V'] [] words
    whereIs (given.has 'V') given.arguments
  | "echo" => echo words
  | "getopts" => getopts words
  | "hash" => remember words
  | "jobs" => jobs words
  | "bg" | "fg" => resume words
  | "kill" => kill words
  | "printf" => printf words
  | "pwd" => printDirectory words
  | "read" => readLineInto words
  | "test" => test words
  | "[" => testInBrackets words
  | "type" => describeEach words
  | "ulimit" => ulimit words
  | "umask" => umask words
  | "unalias" => unalias words
  | "wait" => wait runner.await words
  | _ => return 0

/-- Runs a command of the shell and writes what it prints. A fault of one that is not special is
nothing but its status. -/
def runBuiltin (tested special : Bool) (words : List Octets) : ShellM Nat := do
  let name := words.headD []
  let outer := (← get).command
  modify fun session => { session with command := some name }
  let result ← attempt do
    let status ← runner.builtin tested (String.ofList name) words.tail
    if ← flush then return status
    else
      complain (name ++ ": I/O error".toList)
      return status ||| 1
  modify fun session => { session with command := outer }
  match result with
  | .ok status => return status
  | .error .fault => if special then throw .fault else return 2
  | .error departure => throw departure

/-- How many functions can be run within each other. -/
def deepest : Nat := 1000

/-- Runs a function. -/
def callFunction (tested : Bool) (body : Command) (words : List Octets) : ShellM Nat := do
  let outer ← get
  if deepest ≤ outer.depth then
    failText ("Maximum function recursion depth (" ++ toString deepest ++ ") reached")
  set { outer with arguments := words.tail, depth := outer.depth + 1, loops := 0, optionPlace := 0 }
  let status ← runner.run (.command body tested)
  modify fun inner =>
    { inner with
      arguments := outer.arguments
      depth := outer.depth
      loops := outer.loops
      optionPlace := outer.optionPlace
      skip := inner.skip.filter (· ≠ .return) }
  return status

/-- Runs what a command has been found to be. -/
def invoke (tested : Bool) (invocation : Invocation) : ShellM Nat := do
  match invocation.found with
  | .special | .regular => runner.runBuiltin tested invocation.special invocation.words
  | .function _ body => runner.callFunction tested body invocation.words
  | .program path =>
    makeRoom
    runner.apart (runner.run (.program path invocation.words))
  | .missing fault =>
    complain (invocation.words.headD [] ++ ": ".toList ++ (reasonText "not found" fault).toList)
    return 127

/-- Expands assignments and gives the variables their values, which last as long as the command if
they are `hidden`. Gives the assignments as words. -/
def assignAll (hidden exported : Bool) : List Word → ShellM (List Octets)
  | [] => return []
  | first :: rest => do
    match wordAssignment? first with
    | none => assignAll hidden exported rest
    | some (name, value) =>
      let value ← runner.expander.assigned value
      if hidden then hide name
      assign name value (hidden || exported)
      return (name ++ '=' :: value) :: (← assignAll hidden exported rest)

/-- Runs a **simple command**. Its words are expanded first, then its redirections are made, then
its assignments; what its name stands for has been looked up in between. -/
def simple (line : Nat) (assignments words : List Word) (redirections : List Redirection)
    (tested : Bool) : ShellM Nat := do
  modify fun session => { session with line, substituted := 0 }
  let (front, behind) ← runner.firstFields words
  let name := front.headD []
  let arguments ← runner.argumentFields (assigns name behind) behind
  let invocation := invocation (← get) (words.length + 8) true (front ++ arguments)
  let bare := front.isEmpty
  let redirected ← redirections.mapM runner.resolve
  let descriptors := (← get).descriptors
  if !(← runner.redirectAll true redirected) then
    modify fun session => { session with descriptors }
    if invocation.special then throw .fault else return 2
  else
    let persistent := bare || invocation.special
    let replaces := invocation.words.head? = some "exec".toList
    if !persistent then modify fun session => { session with hidden := [] :: session.hidden }
    let result ← attempt do
      let assigned ← runner.assignAll (!persistent)
        (replaces && 1 < invocation.words.length) assignments
      trace descriptors (assigned ++ front ++ arguments)
      if bare then return (← get).substituted
      else runner.invoke tested invocation
    if !persistent then unhide
    if !replaces then modify fun session => { session with descriptors }
    match result with
    | .ok status => return status
    | .error departure => throw departure

/-! ## Compound commands -/

/-- What a loop does about commands that are passed over: nothing if it is `none`. -/
def leaveLoop : ShellM (Option Skip) := do
  let session ← get
  match session.skip with
  | none => return none
  | some .return => return some .return
  | some (.leave count) =>
    set { session with skip := if count ≤ 1 then none else some (.leave (count - 1)) }
    return some (.leave 1)
  | some (.resume count) =>
    if count ≤ 1 then
      set { session with skip := none }
      return some (.resume 1)
    else
      set { session with skip := some (.resume (count - 1)) }
      return some (.leave 1)

/-- Counts a loop as long as it lasts. -/
def inLoop (body : ShellM Nat) : ShellM Nat := do
  modify fun session => { session with loops := session.loops + 1 }
  let status ← body
  modify fun session => { session with loops := session.loops - 1 }
  return status

/-- Repeats a command while a test succeeds, or while it fails. -/
def loop (negated : Bool) (test body : Command) (tested : Bool) : ShellM Nat :=
  inLoop <| iterate (return 0) (fun status => do
    let tests ← runner.run (.command test true)
    match ← leaveLoop with
    | some (.resume _) => return .inl status
    | some .return => return .inr tests
    | some (.leave _) => return .inr status
    | none =>
      if (tests = 0) = negated then return .inr status
      else
        let status ← runner.run (.command body tested)
        match ← leaveLoop with
        | none | some (.resume _) => return .inl status
        | some _ => return .inr status) runner.fuel 0

/-- Repeats a command for each of some words. -/
def each (name : Octets) (body : Command) (tested : Bool) : Nat → List Octets → ShellM Nat
  | status, [] => return status
  | _, value :: rest => do
    assign name value false
    let status ← runner.run (.command body tested)
    match ← leaveLoop with
    | none | some (.resume _) => each name body tested status rest
    | some _ => return status

/-- Whether one of some patterns matches a text. -/
def matchesAny (subject : Octets) : List Word → ShellM Bool
  | [] => return false
  | first :: rest => do
    if (← runner.expander.pattern first).accepts subject then return true
    else matchesAny subject rest

/-- Runs the first branch of which a pattern matches a text. -/
def choose (subject : Octets) (tested : Bool) : List Branch → ShellM Nat
  | [] => return 0
  | .branch patterns body :: rest => do
    if ← runner.matchesAny subject patterns then
      match body with
      | .nothing => return 0
      | body => runner.run (.command body tested)
    else choose subject tested rest

/-- Runs commands each of which reads what the one in front of it writes, the first one from a
stream if there is one. -/
def pipe (input : Option Nat) : List Command → ShellM Nat
  | [] => return 0
  | [last] =>
    runner.apart do
      input.forM (connect 0)
      runner.run (.command last false)
  | first :: rest => do
    let number ← openStream (.collection [])
    let _ ← runner.apart do
      input.forM (connect 0)
      connect 1 number
      runner.run (.command first false)
    runner.drain number
    let supply ← openStream (.supply ((← get).world.collected number))
    pipe (some supply) rest

/-! ## Commands -/

/-- Says on which line a command begins. -/
def onLine (line : Nat) : ShellM Unit := modify fun session => { session with line }

/-- Runs a command of a kind. -/
def kind (command : Command) (tested : Bool) : ShellM Nat := do
  match command with
  | .nothing => return (← get).status
  | .simple line assignments words redirections =>
    checked tested (runner.simple line assignments words redirections tested)
  | .pipeline commands =>
    makeRoom
    checked tested (runner.pipe none commands)
  | .negation command =>
    let status ← runner.run (.command command true)
    return if (← get).skip.isSome then status else if status = 0 then 1 else 0
  | .both first second =>
    let status ← runner.run (.command first true)
    if status ≠ 0 || (← get).skip.isSome then return status else runner.run (.command second tested)
  | .either first second =>
    let status ← runner.run (.command first true)
    if status = 0 || (← get).skip.isSome then return status else runner.run (.command second tested)
  | .sequence first second =>
    let status ← runner.run (.command first tested)
    if (← get).skip.isSome then return status else runner.run (.command second tested)
  | .background command => begin command
  | .redirected line command redirections =>
    onLine line
    runner.redirecting redirections tested (runner.run (.command command tested))
  | .subshell line command redirections =>
    onLine line
    let redirected ← redirections.mapM runner.resolve
    makeRoom
    checked tested <| runner.apart do
      if ← runner.redirectAll false redirected then runner.run (.command command tested)
      else throw .fault
  | .conditional test yes no =>
    let status ← runner.run (.command test true)
    if (← get).skip.isSome then return status
    else if status = 0 then runner.run (.command yes tested)
    else
      match no with
      | .nothing => return 0
      | no => runner.run (.command no tested)
  | .loop negated test body => runner.loop negated test body tested
  | .each line name words body =>
    onLine line
    let values ← runner.expander.fields words
    inLoop (runner.each name body tested 0 values)
  | .choice line subject branches =>
    onLine line
    let text ← runner.expander.text subject
    runner.choose text tested branches
  | .function line name body =>
    modify fun session =>
      { session with
        functions := (name, line, body) :: session.functions.filter (·.1 ≠ name) }
    return 0

/-- Runs a **command**. -/
def command (command : Command) (tested : Bool) : ShellM Nat := do
  if (← get).has 'n' then return (← get).status
  runner.answer
  let status ← runner.kind command tested
  modify fun session => { session with status }
  runner.answer
  return status

end Runner

end Shell

end CallForest
