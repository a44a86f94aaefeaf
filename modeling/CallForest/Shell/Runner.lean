import CallForest.Shell.Job
import CallForest.Shell.Source

/-! # Processes of a shell

A process runs commands, waits for others that it begins, and lets those go on for which it does not
wait. Nothing happens at the same time: a process that nobody waits for goes on when another one
begins or ends or waits, and it stops where it waits for a time to pass.

* `Shell.Task`, `Shell.Runner`: what is run, and how.
* `Shell.Runner.apart`: runs something in a process that is waited for.
* `Shell.begin`: begins a process that is not waited for.
* `Shell.Runner.waitWhile`: lets such processes go on. -/

namespace CallForest

namespace Shell

/-- Something that is run in the process that asks for it. -/
inductive Task where
  /-- A command. If it is `tested`, its failure has no consequences. -/
  | command (command : Command) (tested : Bool)
  /-- The commands of a text. -/
  | text (text : Octets) (tested : Bool)
  /-- A program in place of the process, given by its path and by its words, the first of which is
  what it is called. -/
  | program (path : Octets) (words : List Octets)

/-! ## Processes that nobody waits for -/

/-- What a process does until it can stop. -/
structure Stretch where
  /-- What is run. -/
  command : Command
  /-- Whether its failure has no consequences. -/
  tested : Bool
  /-- What is left to be run when it has ended with a status. -/
  rest : Nat → Command

/-- What is run of a command before it can stop. -/
def stretch : Command → Stretch
  | .sequence first second =>
    let front := stretch first
    ⟨front.command, front.tested, fun status =>
      match front.rest status with
      | .nothing => second
      | rest => .sequence rest second⟩
  | .both first second =>
    let front := stretch first
    ⟨front.command, true, fun status =>
      match front.rest status with
      | .nothing => if status = 0 then second else .nothing
      | rest => .both rest second⟩
  | .either first second =>
    let front := stretch first
    ⟨front.command, true, fun status =>
      match front.rest status with
      | .nothing => if status = 0 then .nothing else second
      | rest => .either rest second⟩
  | command => ⟨command, false, fun _ => .nothing⟩

/-- The process that goes on first. -/
def earliest? (waiting : List Waiting) : Option Waiting :=
  waiting.foldl (fun first? next =>
    match first? with
    | some first => if next.due < first.due then some next else some first
    | none => some next) none

/-- What a process does that is begun for a command. The streams of the command are its own. -/
def owned (command : Command) : Command :=
  let word : Word := "exec".toList.map (.octet · false)
  match command with
  | .subshell line body redirections | .redirected line body redirections =>
    if redirections.isEmpty then body
    else .sequence (.simple line [] [word] redirections) body
  | command => command

/-- Begins a process that is **not waited for**. It reads nothing. -/
def begin (command : Command) : ShellM Nat := do
  let stream ← openStream .sink
  let session ← get
  let number := Session.firstNumber + stream
  let process := session.toProcess.child
  let descriptors := (0, stream) :: process.descriptors.filter (·.1 ≠ 0)
  let working := session.world.files.working
  let command := if session.has 'x' then command else owned command
  let waiting : Waiting :=
    ⟨number, { process with descriptors }, working, command, session.world.clock⟩
  let jobs := Job.vacated session.jobs
  let commands := match command with
    | .pipeline commands => commands.length
    | _ => 1
  set { session with
    world := { session.world with waiting := session.world.waiting ++ [waiting] }
    jobs := ⟨Job.freePlace jobs, number, commands, false⟩ :: jobs
    background := some number }
  return 0

/-- Makes room for a process that is waited for. -/
def makeRoom : ShellM Unit :=
  modify fun session => { session with jobs := Job.vacated session.jobs }

/-! ## Runners -/

/-- How tasks are run. -/
structure Runner where
  /-- Runs a task, and gives its status. -/
  run : Task → ShellM Nat
  /-- A bound on how often a loop is repeated. -/
  fuel : Nat

namespace Runner

variable (runner : Runner)

/-! ## Ends -/

/-- Does what is to be done at the end of the process. -/
def atEnd : ShellM Unit := do
  let session ← get
  match session.traps.lookup 0 with
  | some (first :: rest) =>
    set { session with traps := session.traps.filter (·.1 ≠ 0), skip := none }
    match ← attempt (runner.run (.text (first :: rest) false)) with
    | .ok _ => modify fun inner => { inner with status := session.status }
    | .error (.killed signal) => throw (.killed signal)
    | .error _ => return
  | _ => return

/-- Runs something to the end of its process. -/
def toEnd (body : ShellM Nat) : ShellM Unit := do
  match ← attempt body with
  | .ok status => modify fun session => { session with status }
  | .error (.killed signal) => throw (.killed signal)
  | .error _ => pure ()
  runner.atEnd
  let _ ← flush

/-! ## Processes that nobody waits for -/

/-- Runs a stretch of a command, and gives what is left of it unless the process has ended. -/
def goOn (command : Command) : ShellM (Option Command) := do
  match command with
  | .nothing =>
    runner.toEnd (return (← get).status)
    return none
  | command =>
    let front := stretch command
    match ← attempt (runner.run (.command front.command front.tested)) with
    | .ok status =>
      if (← get).skip.isSome then
        runner.toEnd (return status)
        return none
      else return some (front.rest status)
    | .error departure =>
      runner.toEnd (throw departure)
      return none

/-- Lets a process go on until it stops or ends. -/
def advance (target : Waiting) : ShellM Unit := do
  let outer ← get
  let world := outer.world
  let waiting := world.waiting.filter (·.number ≠ target.number)
  let files := { world.files with working := target.working }
  let start : Session :=
    ⟨target.process, { world with files, waiting, clock := target.due, ahead := true }⟩
  let (result, inner) := (runner.goOn target.command).run.run start
  let world :=
    { (outer.join inner).world with clock := world.clock, ahead := world.ahead }
  let ended := fun (ending : ProcessEnd) =>
    { world with ended := (target.number, ending) :: world.ended }
  let world := match result with
    | .ok (some command) =>
      let working := inner.world.files.working
      let left := ⟨target.number, inner.toProcess, working, command, inner.world.clock⟩
      { world with waiting := left :: world.waiting }
    | .error (.killed signal) => ended (.killed signal)
    | _ => ended (.exited inner.status)
  set { outer with world }

/-- **Lets the processes go on** that nobody waits for, as long as that is `needed`. -/
def waitWhile (needed : World → Bool) : ShellM Unit :=
  iterate (return ()) (fun _ => do
    let session ← get
    match if needed session.world then earliest? session.world.waiting else none with
    | some target =>
      let clock := max session.world.clock target.due
      set { session with world := { session.world with clock } }
      runner.advance target
      return .inl ()
    | none => return .inr ()) runner.fuel ()

/-- Lets the processes go on whose time has come. -/
def settle : ShellM Unit :=
  runner.waitWhile fun world =>
    !world.ahead && world.waiting.any (·.due ≤ world.clock)

/-- Waits for the ends of processes of some numbers. -/
def await (numbers : List Nat) : ShellM Unit :=
  runner.waitWhile fun world => world.waiting.any (numbers.contains ·.number)

/-- Waits until no process can write to a stream. -/
def drain (stream : Nat) : ShellM Unit :=
  runner.waitWhile fun world => world.waiting.any (·.process.descriptors.any (·.2 = stream))

/-! ## Processes that are waited for -/

/-- Runs something in a **process of its own** that is waited for. Gives its status. -/
def apart (body : ShellM Nat) : ShellM Nat := do
  runner.settle
  let status ← inProcess (runner.toEnd body)
  runner.settle
  return status

/-- The output of a command. -/
def capture (body : Command) : ShellM Octets := do
  match body with
  | .nothing => return []
  | body =>
    makeRoom
    let number ← openStream (.collection [])
    let status ← runner.apart do
      connect 1 number
      runner.run (.command body false)
    runner.drain number
    modify fun session => { session with substituted := status }
    return (← get).world.collected number

end Runner

end Shell

end CallForest
