/-! # Signals

A process can be sent a signal, which ends it unless it is prepared. A signal is given by its
number; most have names.

* `Signal.names`, `Signal.ofName?`: the names.
* `Signal.isHarmless`: signals that end no process.
* `Signal.descriptions`, `Signal.description`: how the end of a process by a signal is described. -/

namespace CallForest

/-- A **signal**, by its number. -/
abbrev Signal := Nat

namespace Signal

/-- The names that signals without a use of their own have, by their distance from the nearest end.
-/
def spareNames : List String :=
  "RTMIN" :: (List.range 15).map (fun index => "RTMIN+" ++ toString (index + 1)) ++
    (List.range 14).map (fun index => "RTMAX-" ++ toString (14 - index)) ++ ["RTMAX"]

/-- The names of the signals in the order of their numbers. The first one stands for the end of a
process, and the number stands for a name that is missing. -/
def names : List String :=
  ["EXIT", "HUP", "INT", "QUIT", "ILL", "TRAP", "ABRT", "BUS", "FPE", "KILL", "USR1", "SEGV",
    "USR2", "PIPE", "ALRM", "TERM", "16", "CHLD", "CONT", "STOP", "TSTP", "TTIN", "TTOU", "URG",
    "XCPU", "XFSZ", "VTALRM", "PROF", "WINCH", "IO", "PWR", "SYS", "32", "33"] ++ spareNames

/-- The signal of a name. -/
def ofName? (name : String) : Option Signal :=
  if names.contains name then some (names.idxOf name) else none

/-- The signals that end no process. -/
def isHarmless (signal : Signal) : Bool := ["CHLD", "CONT", "URG", "WINCH"].any fun name =>
  ofName? name = some signal

/-- How the ends of processes by signals are described, in the order of their numbers. -/
def descriptions : List String :=
  ["", "Hangup", "Interrupt", "Quit", "Illegal instruction", "Trace/breakpoint trap", "Aborted",
    "Bus error", "Floating point exception", "Killed", "User defined signal 1",
    "Segmentation fault", "User defined signal 2", "Broken pipe", "Alarm clock", "Terminated",
    "Stack fault", "Child exited", "Continued", "Stopped (signal)", "Stopped",
    "Stopped (tty input)", "Stopped (tty output)", "Urgent I/O condition",
    "CPU time limit exceeded", "File size limit exceeded", "Virtual timer expired",
    "Profiling timer expired", "Window changed", "I/O possible", "Power failure", "Bad system call"]

/-- How the end of a process by a signal is described. -/
def description (signal : Signal) : String :=
  match descriptions[signal]? with
  | some text => text
  | none =>
    if 34 ≤ signal && signal ≤ 64 then "Real-time signal " ++ toString (signal - 34)
    else "Unknown signal " ++ toString signal

/-- Whether the end of a process by a signal is described to those who wait for it. -/
def isDescribed (signal : Signal) : Bool :=
  ["INT", "PIPE"].all fun name => ofName? name ≠ some signal

end Signal

end CallForest
