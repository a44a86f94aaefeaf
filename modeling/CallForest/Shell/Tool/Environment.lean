import CallForest.Shell.Tool.Basic

/-! # Asking for other variables

A program can be run with other variables than there are. The words that ask for that may be given
as one text, which is split like the line of a command.

* `Shell.Tool.splitWords`: the words of a text.
* `Shell.Tool.EnvironmentRequest`: what is asked for.
* `Shell.Tool.readEnvironment`: reads it. -/

namespace CallForest

namespace Shell

namespace Tool

/-! ## Splitting a text -/

/-- Why a text cannot be split. -/
inductive SplitFault where
  /-- A quote is not closed. -/
  | openQuote
  /-- Nothing follows a backslash. -/
  | lastBackslash
  /-- A character makes no sense behind a backslash. -/
  | badEscape (character : Char)
  /-- The end of the text stands between quotes. -/
  | quotedEnd
  /-- A text is no variable. -/
  | badVariable (text : Octets)

/-- How a fault is reported. -/
def SplitFault.text : SplitFault → Octets
  | .openQuote => "no terminating quote in -S string".toList
  | .lastBackslash => "invalid backslash at end of string in -S".toList
  | .badEscape character => "invalid sequence '\\".toList ++ [character] ++ "' in -S".toList
  | .quotedEnd => "'\\c' must not appear in double-quoted -S string".toList
  | .badVariable text =>
    "only $\x7bVARNAME\x7d expansion is supported, error at: ".toList ++ text

/-- A text that is being split. -/
structure Splitting where
  /-- The words, the last one first, each with its last character first. -/
  words : List Octets
  /-- Whether the next character begins a word. -/
  begins : Bool
  /-- The quote that is open. -/
  quote : Option Char

namespace Splitting

/-- Begins a word, if one is to be begun. -/
def start (splitting : Splitting) : Splitting :=
  if splitting.begins then { splitting with words := [] :: splitting.words, begins := false }
  else splitting

/-- Adds characters to a word. -/
def add (splitting : Splitting) (text : Octets) : Splitting :=
  let splitting := splitting.start
  match splitting.words with
  | word :: others => { splitting with words := (text.reverse ++ word) :: others }
  | [] => splitting

/-- The words. -/
def result (splitting : Splitting) : List Octets := (splitting.words.map List.reverse).reverse

/-- Splits a text, with the values of variables, at most `fuel` characters of it. -/
def go (value? : Octets → Option Octets) :
    Nat → Splitting → Octets → Except SplitFault (List Octets)
  | 0, splitting, _ | _, splitting, [] =>
    if splitting.quote.isSome then .error .openQuote else .ok splitting.result
  | fuel + 1, splitting, character :: rest =>
    let single := splitting.quote = some '\''
    let double := splitting.quote = some '"'
    let plain := go value? fuel (splitting.add [character]) rest
    let turn := fun (isOpen : Bool) =>
      let quote := if isOpen then none else some character
      go value? fuel { splitting.start with quote } rest
    if character = '\'' then if double then plain else turn single
    else if character = '"' then if single then plain else turn double
    else if isSpace character then
      if splitting.quote.isSome then plain
      else go value? fuel { splitting with begins := true } rest
    else if character = '#' && splitting.begins then .ok splitting.result
    else if character = '$' && !single then
      let name := (rest.drop 1).takeWhile fun letter => letter.isAlphanum || letter = '_'
      let isName := rest.head? = some '\x7b' && !name.isEmpty && !name.head?.any Char.isDigit &&
        rest[name.length + 1]? = some '\x7d'
      if !isName then .error (.badVariable (character :: rest))
      else
        let splitting := (value? name).elim splitting splitting.add
        go value? fuel splitting (rest.drop (name.length + 2))
    else if character = '\\' then
      match rest with
      | [] => if single then plain else .error .lastBackslash
      | next :: behind =>
        let letters := [('f', '\x0c'), ('n', '\n'), ('r', '\r'), ('t', '\t'), ('v', '\x0b')]
        if single && next ≠ '\\' && next ≠ '\'' then plain
        else if ['"', '#', '$', '\'', '\\'].contains next then
          go value? fuel (splitting.add [next]) behind
        else if next = '_' then
          if double then go value? fuel (splitting.add [' ']) behind
          else go value? fuel { splitting with begins := true } behind
        else if next = 'c' then if double then .error .quotedEnd else .ok splitting.result
        else
          match letters.lookup next with
          | some meant => go value? fuel (splitting.add [meant]) behind
          | none => .error (.badEscape next)
    else plain

end Splitting

/-- The **words of a text**, with the values of variables. -/
def splitWords (value? : Octets → Option Octets) (text : Octets) :
    Except SplitFault (List Octets) :=
  Splitting.go value? (text.length + 1) ⟨[], true, none⟩ text

/-! ## Reading a request -/

/-- What is asked of a program that runs another one with other variables. -/
structure EnvironmentRequest where
  /-- The options. -/
  given : Given
  /-- Whether no variables are inherited. -/
  bare : Bool
  /-- The variables that are given, with their values. -/
  assigned : List Octets
  /-- The words of the program. -/
  command : List Octets

/-- How other variables are asked for. -/
def environmentUsage : Usage where
  plain := ['i', '0', 'v']
  valued := ['C', 'S', 'u']
  loose := ['!']
  long := [("ignore-environment", 'i'), ("null", '0'), ("unset", 'u'), ("chdir", 'C'),
    ("default-signal", '!'), ("ignore-signal", '!'), ("block-signal", '!'),
    ("list-signal-handling", '!'), ("debug", 'v'), ("split-string", 'S')]
  status := 125
  ordered := true

/-- Why words do not ask for other variables. -/
inductive EnvironmentFault where
  /-- They are refused. -/
  | usage (fault : UsageFault)
  /-- A text among them cannot be split. -/
  | split (fault : SplitFault)

/-- The request of some words behind options that have been read. A dash stands for the option that
nothing is inherited. -/
def EnvironmentRequest.of (options : List (Char × Option Octets)) (words : List Octets) :
    EnvironmentRequest :=
  let rest := if words.head? = some ['-'] then words.tail else words
  let assigned := rest.takeWhile (·.contains '=')
  ⟨⟨options, rest⟩, options.any (·.1 = 'i') || rest.length < words.length, assigned,
    rest.drop assigned.length⟩

/-- Reads **what is asked for**, behind some options, at most `fuel` words of it. -/
def readEnvironment (value? : Octets → Option Octets) :
    Nat → List (Char × Option Octets) → List Octets → Except EnvironmentFault EnvironmentRequest
  | 0, options, words => .ok (.of options words)
  | fuel + 1, options, words => do
    let goOn := fun (more : List (Char × Option Octets)) (rest : List Octets) => do
      let text := more.findSome? fun (option, value) => if option = 'S' then value else none
      let split ← ((text.elim (.ok []) (splitWords value?)).mapError .split)
      readEnvironment value? fuel (options ++ more) (split ++ rest)
    match words with
    | ['-', '-'] :: rest => return .of options rest
    | ('-' :: '-' :: name) :: rest =>
      let (option, rest) ← (environmentUsage.longOption name rest).mapError .usage
      goOn [option] rest
    | ('-' :: letter :: letters) :: rest =>
      let (more, rest) ← (environmentUsage.letters (letter :: letters) rest).mapError
        fun fault => .usage (.letter fault)
      goOn more rest
    | words => return .of options words

end Tool

end Shell

end CallForest
