import CallForest.Analysis.File
import CallForest.CommandLine.Reading
import CallForest.Config.File
import CallForest.Log.Filter
import CallForest.Render.Run

/-! # The program

A filter for the log is chosen, and a command line is carried out: the configuration is read,
overridden and checked, the document is loaded, and its regions are rendered. The first of these
steps that fails ends the program; a region that fails does not keep the others from being rendered,
but the program fails in the end. What is logged on the way is left out, and only whether there can
be a log matters.

* `Failure`: why the program fails.
* `Failure.report`: the report on a failure, with what it goes back to.
* `Arguments.carryOut`: carries out a command line that has been understood.
* `Ending`: how the program ends.
* `Program.runBy`, `Program.run`: the program, with the rendering of documents left open, and as it
  renders them. -/

namespace CallForest

/-! ## Failures -/

/-- Why the program fails. -/
inductive Failure where
  /-- There is no valid configuration. -/
  | config (error : ConfigError)
  /-- The document cannot be loaded from a file. -/
  | load (path : String) (error : LoadError)
  /-- Some of the regions have no diagram. -/
  | regions (failed total : Nat)
  deriving DecidableEq, Repr

namespace Failure

/-- What is reported of a failure first. -/
def message : Failure → String
  | .config error => error.message
  | .load path _ => "Failed to load analysis results from " ++ path
  | .regions failed total =>
    toString failed ++ " of " ++ toString total ++ " regions could not be rendered"

/-- What a failure goes back to, the nearest cause first. -/
def causes : Failure → List String
  | .config error => error.source?.toList
  | .load _ error => [error.message, error.source]
  | .regions _ _ => []

/-- A text whose lines behind the first one are indented by some blanks. -/
def indented (blanks : String) (text : String) : String :=
  String.ofList (text.toList.flatMap fun character =>
    if character = '\n' then '\n' :: blanks.toList else [character])

/-- Causes with their numbers, from a first number on. -/
def numbered (number : Nat) : List String → List String
  | [] => []
  | cause :: rest =>
    ("    " ++ toString number ++ ": " ++ indented "       " cause ++ "\n") ::
      numbered (number + 1) rest

/-- The report on the causes of a failure. Several causes are numbered. -/
def causesText : List String → String
  | [] => ""
  | [cause] => "\nCaused by:\n    " ++ indented "    " cause ++ "\n"
  | causes => "\nCaused by:\n" ++ String.join (numbered 0 causes)

/-- The **report on a failure**. -/
def report (failure : Failure) : String :=
  "Error: " ++ failure.message ++ "\n" ++ causesText failure.causes

end Failure

/-! ## The program -/

variable {m : Type → Type} [Monad m]

namespace Arguments

/-- The configuration of a command line before it is overridden. -/
def baseConfig (host : Host m) (arguments : Arguments) : m (Except ConfigError Config) :=
  match arguments.configFile with
  | none => return .ok .standard
  | some path => Config.load host path

/-- The valid configuration of a command line. -/
def config (host : Host m) (arguments : Arguments) : m (Except ConfigError Config) := do
  match ← arguments.baseConfig host with
  | .error error => return .error error
  | .ok base => return (arguments.apply base).validate

/-- Whether a run has succeeded. -/
def conclude (report : RunReport) : Except Failure Unit :=
  if report.isSuccess then .ok () else .error (.regions report.failed report.regions.length)

/-- **Carries out a command line** that has been understood, rendering its document in some way. -/
def carryOut (host : Host m) (render : Config → Document → m RunReport) (arguments : Arguments) :
    m (Except Failure Unit) := do
  match ← arguments.config host with
  | .error error => return .error (.config error)
  | .ok config =>
    match ← Document.load host arguments.input with
    | .error error => return .error (.load arguments.input error)
    | .ok document => return conclude (← render config document)

end Arguments

/-- How the program ends. -/
inductive Ending where
  /-- It has done what it was asked for. -/
  | success
  /-- It has failed. -/
  | failure (failure : Failure)
  /-- It has not understood its command line, or was asked for something else than a run. -/
  | usage (error : UsageError)
  /-- It has broken off, for no filter for its log could be made. -/
  | brokenOff
  deriving DecidableEq, Repr

/-- How the program ends when a command line has been carried out. -/
def Ending.ofOutcome : Except Failure Unit → Ending
  | .ok () => .success
  | .error reason => .failure reason

/-- The exit status of an ending. Help and the version are asked for, so they are no failures. -/
def Ending.status : Ending → Nat
  | .success | .usage .displayHelp | .usage .displayVersion => 0
  | .failure _ => 1
  | .usage _ => 2
  | .brokenOff => 101

/-- The program, given the words of its command line, rendering its document in some way. -/
def Program.runBy (host : Host m) (render : Config → Document → m RunReport)
    (words : List String) : m Ending :=
  match Arguments.parse words with
  | .error error => return .usage error
  | .ok arguments => do
    match Log.filter? (← host.environment "RUST_LOG") arguments.verbose with
    | none => return .brokenOff
    | some _ => return .ofOutcome (← arguments.carryOut host render)

/-- **The program**, which renders its document region by region. -/
def Program.run (host : Host m) (words : List String) : m Ending :=
  runBy host (fun config document => document.render host config) words

end CallForest
