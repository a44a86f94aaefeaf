import CallForest.Process.Signal
import CallForest.Text.Utf8

/-! # Ends of processes

A process ends with a status, or a signal ends it.

* `ProcessEnd`: how a process ended.
* `ProcessEnd.message`: how that is reported.
* `ProcessReport`: how a process ended, and what it wrote to its standard error. -/

namespace CallForest

/-- How a process ended. -/
inductive ProcessEnd where
  /-- It ended by itself with a status, zero if it succeeded. -/
  | exited (status : Nat)
  /-- A signal ended it. -/
  | killed (signal : Signal)
  deriving DecidableEq, Repr

namespace ProcessEnd

/-- The name of a signal in reports. The signals without a use of their own have none there. -/
def signalName (signal : Signal) : String :=
  if signal = 16 then " (SIGSTKFLT)"
  else if 1 ≤ signal && signal ≤ 31 then " (SIG" ++ (Signal.names[signal]?).getD "" ++ ")"
  else ""

/-- How the end of a process is reported. -/
def message : ProcessEnd → String
  | .exited status => "exit status: " ++ toString status
  | .killed signal => "signal: " ++ toString signal ++ signalName signal

/-- Whether a process succeeded. -/
def isSuccess (ending : ProcessEnd) : Bool := ending = .exited 0

end ProcessEnd

/-- What is known of a process that has ended. -/
structure ProcessReport where
  /-- How it ended. -/
  ending : ProcessEnd
  /-- What it wrote to its standard error. -/
  errors : Bytes
  deriving DecidableEq, Repr

end CallForest
