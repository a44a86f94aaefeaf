import CallForest.CommandLine.Arguments

/-! # Reading command lines

A command line is a row of words, read from left to right. Options begin with a dash and a letter,
or with two dashes and a name; some take a value, which is attached or is the next word. Any other
word is the input, as is every word behind two dashes alone. The value of an option is checked only
when the next option or the input is found, or at the end, so that of two mistakes the first one
that comes to light there is reported.

* `UsageError`: why a command line is not carried out.
* `ValueName`, `FlagName`, `OptionName`: what can be given.
* `ArgumentDraft`: what has been given so far.
* `Arguments.parse`: reads a command line. -/

namespace CallForest

/-- Why a command line is not carried out. -/
inductive UsageError where
  /-- It asks for help. -/
  | displayHelp
  /-- It asks for the version. -/
  | displayVersion
  /-- There is no input. -/
  | missingInput
  /-- There is no such option, or a second input. -/
  | unknownArgument
  /-- A value is missing, or is not one of those that are possible. -/
  | invalidValue
  /-- A value is not a number. -/
  | invalidNumber
  /-- Something is given twice. -/
  | givenTwice
  /-- A flag is given a value. -/
  | tooManyValues
  deriving DecidableEq, Repr

/-- How it is reported that a command line is not carried out. -/
def UsageError.message : UsageError → String
  | .displayHelp => "help was asked for"
  | .displayVersion => "the version was asked for"
  | .missingInput => "the input is missing"
  | .unknownArgument => "an argument is not expected"
  | .invalidValue => "a value is missing or not possible"
  | .invalidNumber => "a value is not a number"
  | .givenTwice => "an option cannot be used multiple times"
  | .tooManyValues => "a flag takes no value"

/-! ## Options -/

/-- Something that is given by a value. -/
inductive ValueName where
  /-- The input, which is no option. -/
  | input
  /-- The directory that diagrams are written to. -/
  | outputDir
  /-- The format of the diagrams. -/
  | format
  /-- How many regions are rendered at a time. -/
  | jobs
  /-- The layout program. -/
  | dotProgram
  /-- The configuration file. -/
  | configFile
  deriving DecidableEq, Repr

/-- Something that is given or not. -/
inductive FlagName where
  /-- Passing cases are shown as well. -/
  | includePassing
  /-- Failing cases are hidden. -/
  | excludeFailing
  /-- The log is to tell more. -/
  | verbose
  deriving DecidableEq, Repr

/-- An option. -/
inductive OptionName where
  /-- An option with a value. -/
  | value (name : ValueName)
  /-- A flag. -/
  | flag (name : FlagName)
  /-- The request for help. -/
  | help
  /-- The request for the version. -/
  | version
  deriving DecidableEq, Repr

/-- The option of a name behind two dashes. -/
def OptionName.ofLong? (name : String) : Option OptionName :=
  match name with
  | "output-dir" => some (.value .outputDir)
  | "format" => some (.value .format)
  | "include-passing" => some (.flag .includePassing)
  | "exclude-failing" => some (.flag .excludeFailing)
  | "jobs" => some (.value .jobs)
  | "dot-program" => some (.value .dotProgram)
  | "config" => some (.value .configFile)
  | "verbose" => some (.flag .verbose)
  | "help" => some .help
  | "version" => some .version
  | _ => none

/-- The option of a letter behind a dash. -/
def OptionName.ofShort? (letter : Char) : Option OptionName :=
  match letter with
  | 'o' => some (.value .outputDir)
  | 'f' => some (.value .format)
  | 'j' => some (.value .jobs)
  | 'c' => some (.value .configFile)
  | 'v' => some (.flag .verbose)
  | 'h' => some .help
  | 'V' => some .version
  | _ => none

/-! ## Values -/

/-- A number of 64 bits in decimal digits, which may begin with a plus sign. -/
def countOf? (text : List Char) : Option Nat :=
  let digits := if text.head? = some '+' then text.tail else text
  let value := digits.foldl (fun value digit => value * 10 + (digit.toNat - '0'.toNat)) 0
  if digits ≠ [] ∧ digits.all Char.isDigit ∧ value ≤ 0xffffffffffffffff then some value else none

/-- A path, which may not be empty. -/
def pathOf (text : String) : Except UsageError String :=
  if text = "" then .error .invalidValue else .ok text

/-- The format of a name. -/
def formatOf (text : String) : Except UsageError OutputFormat :=
  match OutputFormat.ofName? text with
  | some format => .ok format
  | none => .error .invalidValue

/-- A number of regions. -/
def countOf (text : String) : Except UsageError Nat :=
  match countOf? text.toList with
  | some count => .ok count
  | none => .error .invalidNumber

/-! ## Drafts -/

/-- What has been given so far. -/
structure ArgumentDraft where
  /-- The file of the analysis document. -/
  input : Option String := none
  /-- The directory that diagrams are written to. -/
  outputDir : Option String := none
  /-- The format of the diagrams. -/
  format : Option OutputFormat := none
  /-- How many regions are rendered at a time. -/
  jobs : Option Nat := none
  /-- The layout program. -/
  dotProgram : Option String := none
  /-- The configuration file. -/
  configFile : Option String := none
  /-- The flags. -/
  flags : List FlagName := []
  /-- What is still to be checked, with its value if that is there. -/
  pending : Option (ValueName × Option String) := none
  deriving DecidableEq, Repr

namespace ArgumentDraft

/-- Fills a place that is still free with what a text stands for. -/
def fill {α : Type} (place : Option α) (value : Except UsageError α) :
    Except UsageError (Option α) :=
  match place with
  | some _ => .error .givenTwice
  | none => value.map some

/-- Takes a value. -/
def take (draft : ArgumentDraft) (text : String) : ValueName → Except UsageError ArgumentDraft
  | .input => do return { draft with input := ← fill draft.input (pathOf text) }
  | .outputDir => do return { draft with outputDir := ← fill draft.outputDir (pathOf text) }
  | .format => do return { draft with format := ← fill draft.format (formatOf text) }
  | .jobs => do return { draft with jobs := ← fill draft.jobs (countOf text) }
  | .dotProgram => do return { draft with dotProgram := ← fill draft.dotProgram (.ok text) }
  | .configFile => do return { draft with configFile := ← fill draft.configFile (pathOf text) }

/-- Takes what is still to be checked. -/
def settle (draft : ArgumentDraft) : Except UsageError ArgumentDraft :=
  match draft.pending with
  | none => .ok draft
  | some (_, none) => .error .invalidValue
  | some (name, some text) => { draft with pending := none }.take text name

/-- Takes a flag. -/
def raise (draft : ArgumentDraft) (name : FlagName) : Except UsageError ArgumentDraft := do
  let draft ← draft.settle
  if draft.flags.contains name then throw .givenTwice
  return { draft with flags := name :: draft.flags }

/-- Awaits a value. -/
def await (draft : ArgumentDraft) (name : ValueName) : Except UsageError ArgumentDraft := do
  return { ← draft.settle with pending := some (name, none) }

/-- Takes a value that is attached to its option. -/
def attach (draft : ArgumentDraft) (name : ValueName) (text : String) :
    Except UsageError ArgumentDraft := do
  (← draft.settle).take text name

/-- Stops with a request. -/
def stop (draft : ArgumentDraft) (request : UsageError) : Except UsageError ArgumentDraft := do
  let _ ← draft.settle
  throw request

/-- Takes an option with a long name, and the value attached to it. -/
def takeLong (draft : ArgumentDraft) (name : String) (attached : Option String) :
    Except UsageError ArgumentDraft :=
  match OptionName.ofLong? name, attached with
  | none, _ => .error .unknownArgument
  | some (.value name), some text => draft.attach name text
  | some (.value name), none => draft.await name
  | some _, some _ => .error .tooManyValues
  | some (.flag name), none => draft.raise name
  | some .help, none => draft.stop .displayHelp
  | some .version, none => draft.stop .displayVersion

/-- Takes the options of a row of letters. What follows the letter of an option with a value is that
value, behind an equals sign or not. -/
def takeShort (draft : ArgumentDraft) : List Char → Except UsageError ArgumentDraft
  | [] => .ok draft
  | letter :: rest =>
    match OptionName.ofShort? letter with
    | none => .error .unknownArgument
    | some .help => draft.stop .displayHelp
    | some .version => draft.stop .displayVersion
    | some (.flag name) => do (← draft.raise name).takeShort rest
    | some (.value name) =>
      match rest with
      | [] => draft.await name
      | '=' :: value => draft.attach name (String.ofList value)
      | value => draft.attach name (String.ofList value)

/-- Whether the input is there already. -/
def hasInput (draft : ArgumentDraft) : Bool :=
  draft.input.isSome || draft.pending.any (·.1 = .input)

/-- Takes a word that is no option as the input. -/
def takeInput (draft : ArgumentDraft) (text : String) : Except UsageError ArgumentDraft :=
  if draft.hasInput then .error .unknownArgument
  else do return { ← draft.settle with pending := some (.input, some text) }

/-- Takes a word that is no option: the value that is awaited, or the input. -/
def takePlain (draft : ArgumentDraft) (text : String) : Except UsageError ArgumentDraft :=
  match draft.pending with
  | some (name, none) => .ok { draft with pending := some (name, some text) }
  | _ => draft.takeInput text

/-- Takes the words that are left; `closed` means that two dashes alone are in front of them. -/
def takeAll (closed : Bool) (draft : ArgumentDraft) : List String → Except UsageError ArgumentDraft
  | [] => draft.settle
  | word :: rest => do
    if closed then takeAll true (← draft.takeInput word) rest
    else
      match word.toList with
      | ['-', '-'] => takeAll true draft rest
      | '-' :: '-' :: name =>
        let attached := (name.dropWhile (· ≠ '=')).tail?.map String.ofList
        takeAll false (← draft.takeLong (String.ofList (name.takeWhile (· ≠ '='))) attached) rest
      | '-' :: letter :: letters => takeAll false (← draft.takeShort (letter :: letters)) rest
      | _ => takeAll false (← draft.takePlain word) rest

/-- The command line of a draft, which must have an input. -/
def complete (draft : ArgumentDraft) : Except UsageError Arguments :=
  match draft.input with
  | none => .error .missingInput
  | some input =>
    .ok {
      input
      outputDir := draft.outputDir
      format := draft.format
      includePassing := draft.flags.contains .includePassing
      excludeFailing := draft.flags.contains .excludeFailing
      jobs := draft.jobs
      dotProgram := draft.dotProgram
      configFile := draft.configFile
      verbose := draft.flags.contains .verbose }

end ArgumentDraft

/-- Reads a **command line**. -/
def Arguments.parse (words : List String) : Except UsageError Arguments := do
  (← ArgumentDraft.takeAll false {} words).complete

end CallForest
