import CallForest.Shell.Builtin.Control
import CallForest.Shell.Job

/-! # Commands on other processes

Signals are sent to processes, and those that were not waited for are shown and waited for.

* `Shell.kill`: sends signals.
* `Shell.wait`: waits for processes.
* `Shell.jobs`, `Shell.resume`: the processes that were not waited for. -/

namespace CallForest

namespace Shell

/-! ## Jobs -/

/-- The job of a name. -/
def jobOf (name : Octets) : ShellM Job := do
  match Job.find (← get).jobs name with
  | .ok job => return job
  | .error fault => fail (fault.message name)

/-- How a job ended, if it did. -/
def Session.ending? (session : Session) (job : Job) : Option ProcessEnd :=
  session.world.ended.lookup job.process

/-- Shows a job, or only its number. One that has ended is forgotten when it is shown. -/
def showJob (given : Given) (job : Job) : ShellM Unit := do
  let session ← get
  let mode := (given.options.map (·.1)).getLast?
  if mode = some 'p' then print (Octets.ofNat job.process ++ ['\n'])
  else
    let ending? := session.ending? job
    print (job.line session.jobs (mode = some 'l') ending?)
    if ending?.isSome then
      modify fun session => { session with jobs := session.jobs.filter (·.place ≠ job.place) }

/-- Shows jobs, all of them if none is named. -/
def jobs (words : List Octets) : ShellM Nat := do
  let given ← optionsOf ['l', 'p'] [] words
  if given.arguments.isEmpty then (← get).jobs.forM (showJob given)
  else
    for name in given.arguments do
      showJob given (← jobOf name)
      let _ ← flush
  return 0

/-- Goes on with a job, which cannot be done. -/
def resume (words : List Octets) : ShellM Nat := do
  let given ← optionsOf [] [] words
  let refuse := fun (name : Octets) =>
    fail ("job ".toList ++ name ++ " not created under job control".toList)
  match given.arguments with
  | [] =>
    let _ ← jobOf ['%']
    refuse "(null)".toList
  | name :: _ =>
    let _ ← jobOf name
    refuse name

/-! ## Waiting -/

/-- The job of a name or of the number of its process, if there is one of that number. -/
def jobOrProcess (name : Octets) : ShellM (Option Job) := do
  if name.head? = some '%' then return some (← jobOf name)
  else
    let number ← numberOf name
    return (← get).jobs.find? (·.process = number)

/-- Waits for the end of a job, and gives its status. -/
def waitFor (await : List Nat → ShellM Unit) (job : Job) : ShellM Nat := do
  await [job.process]
  let session ← get
  let jobs := session.jobs.map fun other =>
    if other.place = job.place then { other with awaited := true } else other
  set { session with jobs }
  match (session.ending? job).getD (.exited 0) with
  | .exited status => return status
  | .killed signal =>
    if Signal.isDescribed signal && !job.awaited then
      warn ((Signal.description signal).toList ++ ['\n'])
    return 128 + signal

/-- Waits for processes that are named one after the other, and gives the status of the last one
that is known. -/
def waitEach (await : List Nat → ShellM Unit) : Nat → List Octets → ShellM Nat
  | status, [] => return status
  | status, name :: names => do
    match ← jobOrProcess name with
    | none => waitEach await status names
    | some job => waitEach await (← waitFor await job) names

/-- **Waits for processes**, or for all that have been begun: `await` waits for those of some
numbers. -/
def wait (await : List Nat → ShellM Unit) (words : List Octets) : ShellM Nat := do
  let given ← optionsOf [] [] words
  match given.arguments with
  | [] =>
    await ((← get).jobs.map Job.process)
    modify fun session =>
      { session with jobs := session.jobs.map fun job => { job with awaited := true } }
    return 0
  | names => waitEach await 127 names

/-! ## Signals -/

/-- What a process does when a signal arrives. -/
inductive Reaction where
  /-- Nothing. -/
  | none
  /-- It does what it has been told to. -/
  | answer
  /-- It ends. -/
  | death
  deriving DecidableEq, Repr

/-- What a process does when a signal arrives. -/
def Process.reaction (process : Process) (signal : Signal) : Reaction :=
  let certain := ["KILL", "STOP"].any fun name => Signal.ofName? name = some signal
  match if certain then none else process.traps.lookup signal with
  | some [] => .none
  | some _ => .answer
  | none => if signal = 0 || Signal.isHarmless signal then .none else .death

/-- Has a signal arrive at this process. -/
def arrive (signal : Signal) : ShellM Unit := do
  let session ← get
  match session.reaction signal with
  | .none => return
  | .answer => set { session with arrived := session.arrived ++ [signal] }
  | .death => throw (.killed signal)

/-- The signals that a process pays no attention to if it was not waited for. -/
def unheeded : List Signal := ["INT", "QUIT"].filterMap Signal.ofName?

/-- The world after a signal has arrived at a process that goes on later. -/
def World.signalled (world : World) (target : Waiting) (signal : Signal) : World :=
  match if unheeded.contains signal then .none else target.process.reaction signal with
  | .none => world
  | .answer =>
    let arrived := target.process.arrived ++ [signal]
    let waiting := world.waiting.map fun other =>
      if other.number = target.number then
        { other with process := { other.process with arrived } }
      else other
    { world with waiting }
  | .death =>
    { world with
      waiting := world.waiting.filter (·.number ≠ target.number)
      ended := (target.number, .killed signal) :: world.ended }

/-- Sends a signal to processes. -/
def sendEach (signal : Signal) : Nat → List Octets → ShellM Nat
  | status, [] => return status
  | status, target :: targets => do
    if target = Session.identity then
      arrive signal
      sendEach signal status targets
    else
      let isJob := target.head? = some '%'
      let number ←
        if isJob then Job.process <$> jobOf target
        else numberOf (if target.head? = some '-' then target.tail else target)
      let session ← get
      match session.world.waiting.find? (·.number = number) with
      | some process =>
        if isJob || target.head? = some '-' then
          complain "No such process\n".toList
          sendEach signal 1 targets
        else
          set { session with world := session.world.signalled process signal }
          sendEach signal status targets
      | none =>
        complain "No such process\n".toList
        sendEach signal 1 targets

/-- Prints the names of signals, or that of the one which a status tells of. -/
def printSignals (words : List Octets) : ShellM Nat := do
  match words with
  | [] =>
    for name in "0" :: Signal.names.tail do
      print (name.toList ++ ['\n'])
    return 0
  | word :: _ =>
    let number ← numberOf word
    let signal := if 128 < number then number - 128 else number
    match if signal = 0 then none else Signal.names[signal]? with
    | some name =>
      print (name.toList ++ ['\n'])
      return 0
    | none => fail ("invalid signal number or exit status: ".toList ++ word)

/-- Reports how signals are sent. -/
def refuseKill : ShellM Nat :=
  failText "Usage: kill [-s sigspec | -signum | -sigspec] [pid | job]... or\nkill -l [exitstatus]"

/-- Sends signals to processes, or prints the names of signals. -/
def kill (words : List Octets) : ShellM Nat := do
  let direct := match words with
    | ('-' :: name) :: _ => signal? 1 name
    | _ => none
  match direct with
  | some signal => if words.tail.isEmpty then refuseKill else sendEach signal 0 words.tail
  | none =>
    let given ← optionsOf ['l'] ['s'] words
    let signal? ← match given.argument? 's' with
      | some name =>
        match signal? 1 name with
        | some signal => pure (some signal)
        | none => fail ("invalid signal number or name: ".toList ++ name)
      | none => pure none
    if given.has 'l' then if signal?.isSome then refuseKill else printSignals given.arguments
    else if given.arguments.isEmpty then refuseKill
    else sendEach (signal?.getD 15) 0 given.arguments

end Shell

end CallForest
