import CallForest.Shell.Session

/-! # Jobs

A process that is begun and not waited for is a job of the process that began it. Jobs are called by
small numbers, their places; the last one that was begun is the current one, and the one in front of
it the previous one.

* `Shell.Job.vacated`, `Shell.Job.freePlace`: the place of the next job.
* `Shell.Job.find`: the job of a name.
* `Shell.Job.ending`, `Shell.Job.line`: how a job is shown. -/

namespace CallForest

namespace Shell

namespace Job

/-! ## Places -/

/-- The first place that no job has. -/
def freePlace (jobs : List Job) : Nat :=
  let places := (List.range (jobs.length + 1)).map (· + 1)
  (places.find? fun place => jobs.all (·.place ≠ place)).getD 1

/-- The jobs that are left when a process begins: it takes the first place that is free, or that of
a job whose end is known. -/
def vacated (jobs : List Job) : List Job :=
  let free := freePlace jobs
  let leaving := (jobs.filter fun job => job.awaited && job.place < free).map Job.place
  match leaving.min? with
  | some place => jobs.filter (·.place ≠ place)
  | none => jobs

/-! ## Names -/

/-- Why a name is not that of a job. -/
inductive Fault where
  /-- There is no such job. -/
  | unknown
  /-- There is no current job. -/
  | noCurrent
  /-- There is no previous job. -/
  | noPrevious
  /-- There are several such jobs. -/
  | ambiguous
  deriving DecidableEq, Repr

/-- What is reported about a name that is not that of a job. -/
def Fault.message (name : Octets) : Fault → Octets
  | .unknown => "No such job: ".toList ++ name
  | .noCurrent => "No current job".toList
  | .noPrevious => "No previous job".toList
  | .ambiguous => name ++ ": ambiguous".toList

/-- The **job of a name**: of a place behind a percent sign, of another percent sign or a plus sign
for the current one, or of a minus sign for the previous one. -/
def find (jobs : List Job) (name : Octets) : Except Fault Job :=
  match name with
  | ['%'] | ['%', '%'] | ['%', '+'] => jobs.head?.elim (.error .noCurrent) .ok
  | ['%', '-'] => jobs[1]?.elim (.error .noPrevious) .ok
  | ['%', '?'] =>
    match jobs with
    | [] => .error .unknown
    | [job] => .ok job
    | _ => .error .ambiguous
  | '%' :: digits =>
    let place := (String.ofList digits).toNat?
    (jobs.find? fun job => digits.all Char.isDigit && some job.place = place).elim
      (.error .unknown) .ok
  | _ => .error .unknown

/-! ## States -/

/-- How the end of a process is shown. -/
def ending : ProcessEnd → String
  | .exited 0 => "Done"
  | .exited status => "Done(" ++ toString status ++ ")"
  | .killed signal => Signal.description signal

/-- How wide the state of a job is. -/
def stateWidth : Nat := 33

/-- The **line that shows a job**, with its number if that is asked for. -/
def line (jobs : List Job) (numbered : Bool) (job : Job) (ending? : Option ProcessEnd) : Octets :=
  let rank :=
    if jobs.head? = some job then '+'
    else if jobs[1]? = some job then '-'
    else ' '
  let front := '[' :: Octets.ofNat job.place ++ [']', ' ', rank, ' ']
  let number := if numbered then Octets.ofNat job.process ++ [' '] else []
  let text := front ++ number ++ (ending?.elim "Running" ending).toList
  let commands := (List.replicate (job.commands - 1) [' ', '|', ' ']).flatten
  text ++ List.replicate (max 1 (stateWidth - text.length)) ' ' ++ commands ++ ['\n']

end Job

end Shell

end CallForest
