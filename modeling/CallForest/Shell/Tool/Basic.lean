import CallForest.Shell.Builtin.Options
import CallForest.Shell.Numeral

/-! # Tools

A tool is a program of the system that is no shell. It is run in place of its process: it reads,
writes and reports, and ends with a status.

* `Shell.Tool`: tools.
* `Shell.quoted`, `Shell.quotedIfNeeded`: names in reports.
* `Shell.Usage.run`: runs a tool with the options among its words.
* `Shell.contentOf`, `Shell.linesOf`: what a tool reads. -/

namespace CallForest

namespace Shell

/-- A **tool**: what it does with its words, the first of which is what it is called. -/
abbrev Tool := List Octets → ShellM Nat

/-! ## Reports -/

/-- Whether a character shows in reports. -/
def isShown (character : Char) : Bool := 32 ≤ character.toNat && character.toNat < 127

/-- How a character that does not show is spelt. -/
def spelling (character : Char) : Octets :=
  match character with
  | '\n' => ['\\', 'n']
  | '\t' => ['\\', 't']
  | '\r' => ['\\', 'r']
  | '\x07' => ['\\', 'a']
  | '\x08' => ['\\', 'b']
  | '\x0b' => ['\\', 'v']
  | '\x0c' => ['\\', 'f']
  | character =>
    let digits := Nat.toDigits 8 character.toNat
    '\\' :: List.replicate (3 - digits.length) '0' ++ digits

/-- A name that is being put between quotes. -/
structure Quoting where
  /-- What has been written, the last character first. -/
  written : Octets
  /-- Whether the quotes that are open hold spelt characters. -/
  spelt : Bool

/-- Goes on with a character. -/
def Quoting.step (quoting : Quoting) (character : Char) : Quoting :=
  let add :=
    fun (text : Octets) (spelt : Bool) => (⟨text.reverse ++ quoting.written, spelt⟩ : Quoting)
  if isShown character then
    let text := if character = '\'' then "'\\''".toList else [character]
    add (if quoting.spelt then "''".toList ++ text else text) false
  else add (if quoting.spelt then spelling character else "'$'".toList ++ spelling character) true

/-- A **name in a report**, between quotes. -/
def quoted (name : Octets) : Octets :=
  if name.contains '\'' && name.all fun character =>
      isShown character && !(['"', '\\', '$', '\x60', '!'].contains character) then
    '"' :: name ++ ['"']
  else '\'' :: (name.foldl Quoting.step ⟨[], false⟩).written.reverse ++ ['\'']

/-- Whether a name needs quotes. -/
def needsQuotes (name : Octets) : Bool :=
  name.isEmpty || name = ['\x7b'] || name = ['\x7d'] || ['#', '~'].contains (name.headD ' ') ||
    name.any fun character =>
      !isShown character || " !\"$&'()*;<=>?[^\x60|\\:".toList.contains character

/-- A name in a report, between quotes if it needs them. -/
def quotedIfNeeded (name : Octets) : Octets := if needsQuotes name then quoted name else name

/-- Reports something in the name of a tool, behind what it has printed. -/
def report (name text : Octets) : ShellM Unit := do
  let _ ← flush
  warn (name ++ ": ".toList ++ text ++ ['\n'])

/-- Reports a fault about something in the name of a tool, and gives a status. -/
def reportFault (name about : Octets) (fault : SystemFault) (status : Nat) : ShellM Nat := do
  report name (about ++ ": ".toList ++ fault.text.toList)
  return status

/-! ## Options -/

/-- How a tool is used. -/
structure Usage where
  /-- The options without arguments. -/
  plain : List Char := []
  /-- The options with arguments. -/
  valued : List Char := []
  /-- The options whose arguments may be left out, and are attached if they are not. -/
  loose : List Char := []
  /-- The options that are spelt as words, by the letters of the same meaning. -/
  long : List (String × Char) := []
  /-- The status if it is used in another way. -/
  status : Nat := 1
  /-- Whether the options stand in front of all arguments. -/
  ordered : Bool := false

/-- Why the words of a tool are refused. -/
inductive UsageFault where
  /-- A letter is no option, or lacks its argument. -/
  | letter (fault : OptionFault)
  /-- A word is no option. -/
  | unknown (word : Octets)
  /-- A word is the beginning of more than one option. -/
  | ambiguous (word : Octets) (names : List String)
  /-- An option that is spelt as a word lacks its argument. -/
  | lacksArgument (name : String)
  /-- An option that is spelt as a word has an argument that it cannot have. -/
  | hasArgument (name : String)

/-- How a fault is reported. -/
def UsageFault.text : UsageFault → Octets
  | .letter (.unknown option) => "invalid option -- '".toList ++ [option, '\'']
  | .letter (.lacksArgument option) => "option requires an argument -- '".toList ++ [option, '\'']
  | .unknown word => "unrecognized option '--".toList ++ word ++ ['\'']
  | .ambiguous word names =>
    "option '--".toList ++ word ++ "' is ambiguous; possibilities:".toList ++
      names.flatMap fun name => " '--".toList ++ name.toList ++ ['\'']
  | .lacksArgument name => "option '--".toList ++ name.toList ++ "' requires an argument".toList
  | .hasArgument name => "option '--".toList ++ name.toList ++ "' doesn't allow an argument".toList

namespace Usage

/-- The option whose name a word begins with, up to an equals sign. The end of the name may be left
out, unless that makes it another one too. -/
def named (usage : Usage) (word : Octets) : Except UsageFault (String × Char) :=
  let spelt := word.takeWhile (· ≠ '=')
  match usage.long.find? (·.1.toList = spelt), usage.long.filter (spelt.isPrefixOf ·.1.toList) with
  | some option, _ => .ok option
  | none, [] => .error (.unknown word)
  | none, first :: rest =>
    if rest.all (·.2 = first.2) then .ok first
    else .error (.ambiguous word ((first :: rest).map Prod.fst))

/-- The option that a word behind two dashes is, and the words behind it. -/
def longOption (usage : Usage) (word : Octets) (rest : List Octets) :
    Except UsageFault ((Char × Option Octets) × List Octets) := do
  let (name, letter) ← usage.named word
  let value := if word.contains '=' then some ((word.dropWhile (· ≠ '=')).drop 1) else none
  if usage.valued.contains letter then
    match value, rest with
    | some value, rest => return ((letter, some value), rest)
    | none, first :: behind => return ((letter, some first), behind)
    | none, [] => throw (.lacksArgument name)
  else if value.isSome && !usage.loose.contains letter then throw (.hasArgument name)
  else return ((letter, value), rest)

/-- The options that the letters behind a dash are, and the words behind them. -/
def letters (usage : Usage) :
    Octets → List Octets → Except OptionFault (List (Char × Option Octets) × List Octets)
  | [], words => .ok ([], words)
  | option :: rest, words =>
    if usage.loose.contains option then
      .ok ([(option, if rest.isEmpty then none else some rest)], words)
    else if usage.plain.contains option then do
      let (options, words) ← usage.letters rest words
      return ((option, none) :: options, words)
    else if usage.valued.contains option then
      match rest, words with
      | [], [] => .error (.lacksArgument option)
      | [], value :: words => .ok ([(option, some value)], words)
      | value, words => .ok ([(option, some value)], words)
    else .error (.unknown option)

/-- The options among some words, which may stand behind arguments unless they are ordered, at most
`fuel` words of them. -/
def read (usage : Usage) : Nat → List Octets → Except UsageFault Given
  | 0, words => .ok ⟨[], words⟩
  | fuel + 1, words =>
    match words with
    | [] => .ok ⟨[], []⟩
    | ['-', '-'] :: rest => .ok ⟨[], rest⟩
    | ('-' :: '-' :: name) :: rest => do
      let (option, rest) ← usage.longOption name rest
      let given ← usage.read fuel rest
      return { given with options := option :: given.options }
    | ('-' :: letter :: letters) :: rest => do
      let (options, rest) ← (usage.letters (letter :: letters) rest).mapError .letter
      let given ← usage.read fuel rest
      return { given with options := options ++ given.options }
    | word :: rest =>
      if usage.ordered then .ok ⟨[], word :: rest⟩
      else do
        let given ← usage.read fuel rest
        return { given with arguments := word :: given.arguments }

end Usage

/-- Says where to read how a tool is used. -/
def adviseHelp (name : Octets) : ShellM Unit :=
  warn ("Try '".toList ++ name ++ " --help' for more information.\n".toList)

/-- Reports that a tool is not used as it can be, and gives a status. -/
def misuse (name text : Octets) (status : Nat) : ShellM Nat := do
  report name text
  adviseHelp name
  return status

/-- Runs a tool with the **options** and the arguments among its words. -/
def Usage.run (usage : Usage) (words : List Octets) (body : Octets → Given → ShellM Nat) :
    ShellM Nat := do
  let name := words.headD []
  match usage.read (words.length + 1) words.tail with
  | .ok given => body name given
  | .error fault => misuse name fault.text usage.status

/-- Reports that an operand is missing. -/
def lacksOperand (name : Octets) : ShellM Nat :=
  misuse name "missing operand".toList 1

/-- The word that a word of an option is the beginning of, or the words that it could be. Words on
one line mean the same. -/
def choice? (name option : Octets) (lines : List (List String)) (word : Octets) :
    ShellM (Option String) := do
  let words := lines.flatten
  let lineOf := fun (other : String) => lines.findIdx? (·.contains other)
  let refuse := fun (kind : String) => do
    report name <| kind.toList ++ " argument ".toList ++ quoted word ++ " for ".toList ++
      quoted option
    warn <| "Valid arguments are:\n".toList ++ lines.flatMap fun line =>
      "  - ".toList ++ ", ".toList.intercalate (line.map fun word => quoted word.toList) ++ ['\n']
    adviseHelp name
    return none
  match words.find? (·.toList = word), words.filter (word.isPrefixOf ·.toList) with
  | some exact, _ => return some exact
  | none, [] => refuse "invalid"
  | none, first :: rest =>
    if rest.all (lineOf · = lineOf first) then return some first else refuse "ambiguous"

/-- An option whose argument is one of some words. -/
structure WordOption where
  /-- The option. -/
  letter : Char
  /-- What it is called in reports. -/
  about : String
  /-- The words, of which those on one line mean the same. -/
  lines : List (List String)

/-- The **words that options are given**, behind some that have been, the last one first. There are
none if one is not understood. -/
def chosenWords (name : Octets) (known : List WordOption) :
    List (Char × String) → List (Char × Option Octets) → ShellM (Option (List (Char × String)))
  | chosen, [] => return some chosen
  | chosen, (letter, value) :: rest => do
    match known.find? (·.letter = letter), value with
    | some option, some word =>
      match ← choice? name option.about.toList option.lines word with
      | none => return none
      | some word => chosenWords name known ((letter, word) :: chosen) rest
    | _, _ => chosenWords name known chosen rest

/-- Options with their arguments, in the order in which they are given. -/
abbrev Options := List (Char × Option Octets)

/-- The options in front of the first one that is **refused** behind those in front of it, and why
that is, if there is one. -/
def soundOptions (refuse : Options → Char → Option Octets → Option Octets) (front : Options) :
    Options → Options × Option Octets
  | [] => (front, none)
  | (option, value) :: rest =>
    match refuse front option value with
    | some text => (front, some text)
    | none => soundOptions refuse (front ++ [(option, value)]) rest

/-- Reports that an operand is missing behind another one. -/
def lacksOperandBehind (name operand : Octets) : ShellM Nat :=
  misuse name ("missing operand after ".toList ++ quoted operand) 1

/-- Reports that there is an operand too many. -/
def extraOperand (name operand : Octets) : ShellM Nat :=
  misuse name ("extra operand ".toList ++ quoted operand) 1

/-! ## Inputs -/

/-- The content of a file, or for a dash what is left of the input. -/
def contentOf (path : Octets) : ShellM (Except SystemFault Octets) := do
  if path = ['-'] then read 0 none
  else
    match ← openFile (Octets.toText path) .input with
    | .error fault => return .error fault
    | .ok number =>
      let session ← get
      match session.world.read number none with
      | .error fault => return .error fault
      | .ok (text, world) =>
        set { session with world }
        return .ok text

/-- What there is to read of the input, of which only as much is taken as `wanted` says. A file is
left right behind that; of a pipe whole blocks are taken. -/
def takeInput (block : Nat) (wanted : Octets → Nat) : ShellM (Except SystemFault Octets) := do
  match ← read 0 none with
  | .error fault => return .error fault
  | .ok text =>
    let size := min (wanted text) text.length
    let session ← get
    let number := (session.descriptors.lookup 0).getD 0
    match session.world.openings.lookup number with
    | some (.file location place readable writable appending) =>
      let place := place - (text.length - size)
      let opening := Opening.file location place readable writable appending
      set { session with world := session.world.update number opening }
    | some (.supply left) =>
      let left := text.drop ((size + block - 1) / block * block) ++ left
      set { session with world := session.world.update number (.supply left) }
    | _ => pure ()
    return .ok text

/-- Ends with a status, unless the input was among what was wanted but is not open. -/
def closeInput (name : Octets) (paths : List Octets) (status : Nat) : ShellM Nat := do
  if ((← get).descriptors.lookup 0).isNone && paths.contains ['-'] then
    reportFault name ['-'] .badDescriptor 1
  else return status

/-- Asks for leave to do something. The answer is a line of the input. -/
def confirms (name question : Octets) : ShellM Bool := do
  let _ ← flush
  warn (name ++ ": ".toList ++ question ++ "? ".toList)
  match ← takeInput 1 fun text => (text.takeWhile (· ≠ '\n')).length + 1 with
  | .ok text => return text.head? = some 'y' || text.head? = some 'Y'
  | .error _ => return false

/-- The lines of a text, each with the character that ends it if it has one. -/
def linesEnding (ending : Char) (text : Octets) : List Octets :=
  text.foldr (fun character lines =>
    match lines with
    | first :: rest =>
      if character = ending then [ending] :: lines else (character :: first) :: rest
    | [] => [[character]]) []

/-- The lines of a text, each with its end if it has one. -/
def linesOf (text : Octets) : List Octets := linesEnding '\n' text

/-- A line without its end. -/
def bare (line : Octets) : Octets := line.filter (· ≠ '\n')

/-- Writes a line with an end. -/
def printLine (line : Octets) : ShellM Unit := print (line ++ ['\n'])

/-- The number that a letter behind another number multiplies it by, with the power that it has. -/
def unitPower? (letter : Char) : Option Nat :=
  match letter with
  | 'k' | 'K' => some 1
  | 'm' | 'M' => some 2
  | _ => (['G', 'T', 'P', 'E', 'Z', 'Y', 'R', 'Q'].idxOf? letter).map (· + 3)

/-- The number that the unit behind another number multiplies it by. -/
def unit? : Octets → Option Nat
  | [] => some 1
  | ['b'] => some 512
  | [letter] | [letter, 'i', 'B'] => (unitPower? letter).map (Nat.pow 1024)
  | [letter, 'B'] => (unitPower? letter).map (Nat.pow 1000)
  | _ => none

/-- The number that a word is, perhaps with a unit. -/
def count? (word : Octets) : Option Nat :=
  let word := word.dropWhile isSpace
  let word := if word.head? = some '+' then word.tail else word
  let digits := word.takeWhile Char.isDigit
  if digits.isEmpty then none
  else (unit? (word.drop digits.length)).map (digitsValue 10 digits * ·)

/-- Runs something for each of some words, and gives the greatest status. -/
def greatestOf (body : Octets → ShellM Nat) : List Octets → ShellM Nat
  | [] => return 0
  | first :: rest => do
    let status ← body first
    return max status (← greatestOf body rest)

end Shell

end CallForest
