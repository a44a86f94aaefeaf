import CallForest.Analysis.Drawing
import CallForest.Config.Format
import CallForest.Text.Blank

/-! # Configuration of a run

Where diagrams are written, in which format, what they show, and which program lays them out. A
configuration is valid if at least one region may be rendered at a time and a format that needs a
layout program has one.

* `Config`, `Config.standard`: configurations, and the one that holds if nothing else is asked for.
* `Config.Flaw`, `Config.flaw?`: what makes a configuration invalid, and the first such thing.
* `Config.graphOptions`: which cases of a region are shown. -/

namespace CallForest

/-- The **configuration** of a run. -/
structure Config where
  /-- The directory that diagrams are written to. -/
  outputDir : String
  /-- The format of the diagrams. -/
  format : OutputFormat
  /-- Whether passing cases are shown. -/
  includePassing : Bool
  /-- Whether failing cases are shown. -/
  includeFailing : Bool
  /-- How many regions are rendered at a time. -/
  jobs : Nat
  /-- The layout program. -/
  dotProgram : String
  deriving DecidableEq, Repr

namespace Config

/-- The configuration that holds if nothing else is asked for. -/
def standard : Config where
  outputDir := "callgraphs"
  format := .svg
  includePassing := GraphOptions.standard.includePassing
  includeFailing := GraphOptions.standard.includeFailing
  jobs := 1
  dotProgram := "dot"

/-- What makes a configuration invalid. -/
inductive Flaw where
  /-- No region may be rendered at a time. -/
  | noJobs
  /-- A format needs a layout program, and there is none. -/
  | noProgram (format : OutputFormat)
  deriving DecidableEq, Repr

/-- How a flaw is reported. -/
def Flaw.message : Flaw → String
  | .noJobs => "jobs must be at least 1"
  | .noProgram format =>
    "format `" ++ format.name ++ "` needs a Graphviz program, but dot_program is empty"

/-- The first flaw of a configuration. A name that is blank throughout names no program. -/
def flaw? (config : Config) : Option Flaw :=
  if config.jobs = 0 then some .noJobs
  else if config.format.needsLayout && Blank.isBlank config.dotProgram then
    some (.noProgram config.format)
  else none

/-- Which cases of a region are shown. -/
def graphOptions (config : Config) : GraphOptions :=
  ⟨config.includePassing, config.includeFailing⟩

/-- The standard configuration has no flaw. -/
theorem flaw?_standard : standard.flaw? = none := by decide

/-- The standard configuration shows what is shown by standard. -/
@[simp] theorem graphOptions_standard : standard.graphOptions = .standard := rfl

end Config

end CallForest
