import CallForest.Shell.Session

/-! # Options of commands

Options stand in front of the arguments of a command: a dash and letters, the last of which may have
an argument. Two dashes end them.

* `Shell.Given`, `Shell.OptionFault`: the options of a command, and why they are refused.
* `Shell.readOptions`: the options in front of some words.
* `Shell.optionsOf`: the options of a command of the shell. -/

namespace CallForest

namespace Shell

/-- The options and the arguments of a command. -/
structure Given where
  /-- The options in their order, with their arguments. -/
  options : List (Char × Option Octets)
  /-- The arguments. -/
  arguments : List Octets
  deriving DecidableEq, Repr

namespace Given

/-- Whether an option is given. -/
def has (given : Given) (option : Char) : Bool := given.options.any (·.1 = option)

/-- The argument of an option, the last one if there are more. -/
def argument? (given : Given) (option : Char) : Option Octets :=
  (given.options.reverse.lookup option).bind id

/-- All arguments of an option. -/
def argumentsOf (given : Given) (option : Char) : List Octets :=
  given.options.filterMap fun (other, value) => if other = option then value else none

end Given

/-- Why options are refused. -/
inductive OptionFault where
  /-- There is no such option. -/
  | unknown (option : Char)
  /-- The argument of an option is missing. -/
  | lacksArgument (option : Char)
  deriving DecidableEq, Repr

/-- The options of a word behind its dash, of which those in `valued` have arguments. The first word
behind it is the argument of the last one if nothing follows that. -/
def optionsOfWord (plain valued : List Char) :
    Octets → List Octets → Except OptionFault (List (Char × Option Octets) × List Octets)
  | [], words => .ok ([], words)
  | option :: rest, words =>
    if plain.contains option then do
      let (options, words) ← optionsOfWord plain valued rest words
      return ((option, none) :: options, words)
    else if valued.contains option then
      match rest, words with
      | [], [] => .error (.lacksArgument option)
      | [], value :: words => .ok ([(option, some value)], words)
      | value, words => .ok ([(option, some value)], words)
    else .error (.unknown option)

/-- The **options in front of some words**, at most `fuel` words of them. -/
def readOptions (plain valued : List Char) : Nat → List Octets → Except OptionFault Given
  | 0, words => .ok ⟨[], words⟩
  | fuel + 1, words =>
    match words with
    | ['-', '-'] :: rest => .ok ⟨[], rest⟩
    | ('-' :: first :: letters) :: rest => do
      let (options, words) ← optionsOfWord plain valued (first :: letters) rest
      let given ← readOptions plain valued fuel words
      return ⟨options ++ given.options, given.arguments⟩
    | words => .ok ⟨[], words⟩

/-- The **options of a command** of the shell. -/
def optionsOf (plain valued : List Char) (words : List Octets) : ShellM Given := do
  match readOptions plain valued (words.length + 1) words with
  | .ok given => return given
  | .error (.unknown option) => fail ("Illegal option -".toList ++ [option])
  | .error (.lacksArgument option) => fail ("No arg for -".toList ++ [option] ++ " option".toList)

end Shell

end CallForest
