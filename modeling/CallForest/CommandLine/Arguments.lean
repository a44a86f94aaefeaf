import CallForest.Config.Setting

/-! # Arguments

What a command line asks for: the analysis document, and whatever overrides the configuration. Flags
only switch: one of them shows passing cases, another hides failing ones.

* `Arguments`: a command line that has been understood.
* `Arguments.settings`, `Arguments.apply`: what it changes in a configuration. -/

namespace CallForest

/-- A **command line** that has been understood. -/
structure Arguments where
  /-- The file of the analysis document. -/
  input : String
  /-- The directory that diagrams are written to. -/
  outputDir : Option String
  /-- The format of the diagrams. -/
  format : Option OutputFormat
  /-- Whether passing cases are shown as well. -/
  includePassing : Bool
  /-- Whether failing cases are hidden. -/
  excludeFailing : Bool
  /-- How many regions are rendered at a time. -/
  jobs : Option Nat
  /-- The layout program. -/
  dotProgram : Option String
  /-- The configuration file. -/
  configFile : Option String
  /-- Whether the log is to tell more. -/
  verbose : Bool
  deriving DecidableEq, Repr

namespace Arguments

/-- The settings that a command line makes, each at most once. -/
def settings (arguments : Arguments) : List Setting :=
  (arguments.outputDir.map .outputDir).toList ++
    (arguments.format.map .format).toList ++
    (if arguments.includePassing then [.includePassing true] else []) ++
    (if arguments.excludeFailing then [.includeFailing false] else []) ++
    (arguments.jobs.map .jobs).toList ++
    (arguments.dotProgram.map .dotProgram).toList

/-- A configuration **overridden by a command line**. -/
def apply (arguments : Arguments) (config : Config) : Config :=
  arguments.settings.foldl Config.set config

end Arguments

end CallForest
