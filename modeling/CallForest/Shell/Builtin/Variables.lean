import CallForest.Shell.Builtin.Options
import CallForest.Shell.Expansion

/-! # Commands on variables

Variables are exported and made to keep their values, hidden in functions and taken away; options
and arguments are set; values are read from the input.

* `Shell.export`, `Shell.local`, `Shell.unset`: variables.
* `Shell.setOptions`, `Shell.shift`, `Shell.getopts`: options and arguments.
* `Shell.readLineInto`: a line of the input as values.
* `Shell.alias`, `Shell.unalias`: texts that stand for names of commands. -/

namespace CallForest

namespace Shell

/-! ## Variables -/

/-- A text between quotes from which a shell reads it. -/
def quotedForShell (text : Octets) : Octets :=
  '\'' :: (text.flatMap fun character =>
    if character = '\'' then "'\"'\"'".toList else [character]) ++ ['\'']

/-- Prints variables with their values, in the order of their names. -/
def printVariables (front : Octets) (shown : Variable → Bool) : ShellM Unit := do
  let kept := (← get).bindings.filter fun (_, found) => shown found
  let sorted := kept.mergeSort fun (name, _) (other, _) =>
    decide (String.ofList name ≤ String.ofList other)
  for (name, found) in sorted do
    let value := found.value.elim [] fun value => '=' :: quotedForShell value
    print (front ++ name ++ value ++ ['\n'])

/-- The name and the value that a word gives to a variable. -/
def nameAndValue (word : Octets) : ShellM (Octets × Option Octets) := do
  let name := word.takeWhile (· ≠ '=')
  if !isName name then fail (name ++ ": bad variable name".toList)
  else
    return (name, if name.length = word.length then none else some (word.drop (name.length + 1)))

/-- Changes what is known of a variable, which need not have a value. -/
def mark (change : Variable → Variable) (word : Octets) : ShellM Unit := do
  let (name, value) ← nameAndValue word
  match value with
  | some value => assign name value false
  | none => pure ()
  modify fun session =>
    session.putVariable name (change ((session.bindings.lookup name).getD ⟨none, false, false⟩))

/-- Marks variables, or prints those that are marked. -/
def markEach (name : Octets) (marked : Variable → Bool) (change : Variable → Variable)
    (words : List Octets) : ShellM Nat := do
  let given ← optionsOf ['p'] [] words
  if given.has 'p' || given.arguments.isEmpty then printVariables (name ++ [' ']) marked
  else
    for word in given.arguments do
      mark change word
  return 0

/-- Has other programs get variables. -/
def «export» : List Octets → ShellM Nat :=
  markEach "export".toList Variable.exported fun found => { found with exported := true }

/-- Has variables keep their values for ever. -/
def «readonly» : List Octets → ShellM Nat :=
  markEach "readonly".toList Variable.readOnly fun found => { found with readOnly := true }

/-- Remembers a variable, which gets its old value back when the function is left. -/
def hide (name : Octets) : ShellM Unit :=
  modify fun session =>
    match session.hidden with
    | [] => session
    | first :: rest =>
      if first.any (·.1 = name) then session
      else { session with hidden := ((name, session.bindings.lookup name) :: first) :: rest }

/-- Gives the variables that a function hid their old values back. -/
def unhide : ShellM Unit :=
  modify fun session =>
    match session.hidden with
    | [] => session
    | first :: rest =>
      let restored := first.foldl (fun (session : Session) (name, old) =>
        match old with
        | some old => session.putVariable name old
        | none => { session with bindings := session.bindings.filter (·.1 ≠ name) }) session
      { restored with hidden := rest }

/-- Hides variables in a function. -/
def «local» (words : List Octets) : ShellM Nat := do
  if (← get).hidden.isEmpty then failText "not in a function"
  else
    for word in words do
      let (name, value) ← nameAndValue word
      hide name
      match value with
      | some value => assign name value false
      | none => pure ()
    return 0

/-- Takes variables or functions away. -/
def unset (words : List Octets) : ShellM Nat := do
  let given ← optionsOf ['v', 'f'] [] words
  let functions := (given.options.getLast?.map Prod.fst) = some 'f'
  for name in given.arguments do
    if functions then
      modify fun session => { session with functions := session.functions.filter (·.1 ≠ name) }
    else if !isName name then fail (name ++ ": bad variable name".toList)
    else unassign name
  return 0

/-! ## Options and arguments -/

/-- The options by their names, with their letters. -/
def optionNames : List (String × Option Char) := [
  ("errexit", some 'e'), ("noglob", some 'f'), ("ignoreeof", some 'I'), ("interactive", some 'i'),
  ("monitor", some 'm'), ("noexec", some 'n'), ("stdin", some 's'), ("xtrace", some 'x'),
  ("verbose", some 'v'), ("vi", some 'V'), ("emacs", some 'E'), ("noclobber", some 'C'),
  ("allexport", some 'a'), ("notify", some 'b'), ("nounset", some 'u'), ("privileged", some 'p'),
  ("nolog", none), ("debug", none)]

/-- Turns an option on or off. -/
def setOption (on : Bool) (option : Char) : ShellM Unit := do
  if optionNames.any (·.2 = some option) then
    modify fun session =>
      let others := session.options.filter (· ≠ option)
      { session with options := if on then option :: others else others }
  else fail ("Illegal option -".toList ++ [option])

/-- Prints which options are on. -/
def printOptions (on : Bool) : ShellM Unit := do
  let session ← get
  if on then print "Current option settings\n".toList
  for (name, letter) in optionNames do
    let holds := letter.any session.has
    if on then
      let blanks := List.replicate (16 - name.length) ' '
      print (name.toList ++ blanks ++ (if holds then "on\n" else "off\n").toList)
    else
      let sign := if holds then '-' else '+'
      print ("set ".toList ++ sign :: "o ".toList ++ name.toList ++ ['\n'])

/-- Turns an option of a name on or off. -/
def setNamed (on : Bool) (name : Octets) : ShellM Unit := do
  match optionNames.lookup (String.ofList name) with
  | some (some letter) => setOption on letter
  | some none => return
  | none => fail ("Illegal option -o ".toList ++ name)

/-- Turns the options of a word on or off, and gives the words behind their names. -/
def setLetters (on : Bool) : Octets → List Octets → ShellM (List Octets)
  | [], words => return words
  | 'o' :: letters, words => do
    match words with
    | [] => printOptions on
    | name :: _ => setNamed on name
    setLetters on letters words.tail
  | letter :: letters, words => do
    setOption on letter
    setLetters on letters words

/-- Reads options in front of arguments, at most `fuel` words of them. Gives the arguments if they
are to be set even if there are none. -/
def setWords : Nat → List Octets → ShellM (Option (List Octets))
  | 0, _ => return none
  | fuel + 1, words => do
    match words with
    | [] => return none
    | ['-', '-'] :: rest => return some rest
    | ['-'] :: rest =>
      modify fun session =>
        { session with
          options := session.options.filter fun option => option ≠ 'x' && option ≠ 'v' }
      return if rest.isEmpty then none else some rest
    | ('-' :: letters) :: rest => setWords fuel (← setLetters true letters rest)
    | ('+' :: letters) :: rest => setWords fuel (← setLetters false letters rest)
    | words => return some words

/-- Sets options and arguments, or prints the variables. -/
def setOptions (words : List Octets) : ShellM Nat := do
  if words.isEmpty then printVariables [] (·.value.isSome)
  else
    match ← setWords (words.length + 1) words with
    | none => pure ()
    | some arguments => modify fun session => { session with arguments, optionPlace := 0 }
  return 0

/-- The number that a word is. -/
def numberOf (word : Octets) : ShellM Nat := do
  match number? word with
  | some number => return number
  | none => fail ("Illegal number: ".toList ++ word)

/-- Takes arguments off the front. -/
def shift (words : List Octets) : ShellM Nat := do
  let count ← match words with
    | [] => pure 1
    | word :: _ => numberOf word
  if (← get).arguments.length < count then failText "can't shift that many"
  else
    modify fun session =>
      { session with arguments := session.arguments.drop count, optionPlace := 0 }
    return 0

/-! ## Options of scripts -/

/-- How an option is used in a description of options. -/
def optionIn (option : Char) : Octets → Option Bool
  | [] => none
  | letter :: ':' :: rest => if letter = option then some true else optionIn option rest
  | letter :: rest => if letter = option then some false else optionIn option rest

/-- Ends the search for an option: gives the variables their values. -/
def foundOption (name : Octets) (option : Char) (index place : Nat) : ShellM Unit := do
  assign "OPTIND".toList (Octets.ofNat index) false
  assign name [option] false
  modify fun session => { session with optionPlace := place }

/-- Reports an option that is not as described, in a variable if reports are `quiet`. -/
def reportOption (quiet : Bool) (text : Octets) (option : Char) : ShellM Unit := do
  if quiet then assign "OPTARG".toList [option] false
  else
    warn (text ++ ['\n'])
    unassign "OPTARG".toList

/-- Finds the next option among words. -/
def nextOption (description name : Octets) (words : List Octets) : ShellM Nat := do
  let session ← get
  let index := ((session.value? "OPTIND".toList).bind number?).getD 1
  let index := if index = 0 then 1 else index
  let quiet := description.head? = some ':'
  let described := if quiet then description.tail else description
  let inside := session.optionPlace
  let current :=
    if inside = 0 || index ≤ 1 then []
    else ((words[index - 2]?).getD []).drop inside
  let (letters, index, ended) :=
    if !current.isEmpty then (current, index, false)
    else
      match words[index - 1]? with
      | some ['-', '-'] => ([], index + 1, true)
      | some ('-' :: first :: letters) => (first :: letters, index + 1, false)
      | _ => ([], index, true)
  match if ended then [] else letters with
  | [] =>
    foundOption name '?' index 0
    return 1
  | option :: rest =>
    let place := ((words[index - 2]?).getD []).length - rest.length
    match optionIn option described with
    | none =>
      reportOption quiet ("Illegal option -".toList ++ [option]) option
      foundOption name '?' index place
    | some false =>
      assign "OPTARG".toList [] false
      foundOption name option index place
    | some true =>
      if !rest.isEmpty then
        assign "OPTARG".toList rest false
        foundOption name option index 0
      else
        match words[index - 1]? with
        | some value =>
          assign "OPTARG".toList value false
          foundOption name option (index + 1) 0
        | none =>
          reportOption quiet ("No arg for -".toList ++ [option] ++ " option".toList) option
          foundOption name (if quiet then ':' else '?') index place
    return 0

/-- Finds the next option of a script. -/
def getopts (words : List Octets) : ShellM Nat := do
  match words with
  | description :: name :: rest =>
    let own := (← get).arguments
    nextOption description name (if rest.isEmpty then own else rest)
  | _ => failText "Usage: getopts optstring var [arg...]"

/-! ## Lines of the input -/

/-- A line that is being split into a number of values. -/
structure LineSplitter where
  /-- The values that are complete, the last one first. -/
  done : List Octets
  /-- The value that has been begun, its last character first. -/
  current : Octets
  /-- How many values are to come. -/
  left : Nat
  /-- How long the last value is if nothing but blank separators follows. -/
  cut : Option Nat
  /-- Whether a blank separator has just ended a value. -/
  behindBlank : Bool

/-- Goes on with a character, which separates values unless it is escaped. -/
def LineSplitter.step (separators : Octets) (splitter : LineSplitter) (input : Char × Bool) :
    LineSplitter :=
  let (character, escaped) := input
  let separates := separators.contains character
  let blank := separates && [' ', '\t', '\n'].contains character
  let added := { splitter with current := character :: splitter.current }
  if escaped then { added with behindBlank := false }
  else if splitter.left = 0 then
    if blank then { added with cut := some (splitter.cut.getD splitter.current.length) }
    else
      let cut := if separates && splitter.behindBlank then splitter.cut else none
      { added with cut, behindBlank := false }
  else if splitter.behindBlank then
    if separates then { splitter with behindBlank := blank }
    else { added with behindBlank := false }
  else if separates then
    if splitter.current.isEmpty && blank then splitter
    else
      let left := splitter.left - 1
      if left = 0 then
        { added with left, cut := some splitter.current.length, behindBlank := blank }
      else
        { splitter with
          done := splitter.current.reverse :: splitter.done, current := [], left
          behindBlank := blank }
  else { added with behindBlank := false }

/-- The values that a line is split into. -/
def splitLine (separators : Octets) (count : Nat) (line : List (Char × Bool)) : List Octets :=
  let splitter := line.foldl (LineSplitter.step separators) ⟨[], [], count, none, false⟩
  let last := splitter.current.reverse
  let last := splitter.cut.elim last last.take
  (if last.isEmpty then splitter.done else last :: splitter.done).reverse

/-- Reads a line from the input: its characters, with whether each is escaped, and whether the line
has an end. -/
def readLineOfInput (raw : Bool) : Nat → ShellM (List (Char × Bool) × Bool)
  | 0 => return ([], false)
  | fuel + 1 => do
    let more := fun (octet : Char) (escaped : Bool) => do
      let (line, ended) ← readLineOfInput raw fuel
      return ((octet, escaped) :: line, ended)
    match ← read 0 (some 1) with
    | .ok ['\n'] => return ([], true)
    | .ok ['\x00'] => readLineOfInput raw fuel
    | .ok ['\\'] =>
      if raw then more '\\' false
      else
        match ← read 0 (some 1) with
        | .ok ['\n'] => readLineOfInput raw fuel
        | .ok [octet] => more octet true
        | _ => return ([], false)
    | .ok [octet] => more octet false
    | _ => return ([], false)

/-- Gives values to variables. Those that are left over become empty. -/
def assignEach : List Octets → List Octets → ShellM Unit
  | [], _ => return
  | name :: names, values => do
    if !isName name then fail (name ++ ": bad variable name".toList)
    assign name (values.headD []) false
    assignEach names values.tail

/-- Reads a **line of the input** into variables. -/
def readLineInto (words : List Octets) : ShellM Nat := do
  let given ← optionsOf ['r'] ['p'] words
  if given.arguments.isEmpty then failText "arg count"
  else
    let (line, ended) ← readLineOfInput (given.has 'r') 1000000
    let separators := (← get).separators
    assignEach given.arguments (splitLine separators given.arguments.length line)
    return if ended then 0 else 1

/-! ## Names that stand for texts -/

/-- Has names stand for texts, or prints which ones do. -/
def «alias» (words : List Octets) : ShellM Nat := do
  let shown := fun (name value : Octets) => name ++ '=' :: quotedForShell value ++ ['\n']
  if words.isEmpty then
    for (name, value) in (← get).aliases do
      print (shown name value)
    return 0
  else
    let mut status := 0
    for word in words do
      let name := word.takeWhile (· ≠ '=')
      if name.length = word.length || name.isEmpty then
        match (← get).aliases.lookup word with
        | some value => print (shown word value)
        | none =>
          warn ("alias: ".toList ++ word ++ " not found\n".toList)
          status := 1
      else
        let value := word.drop (name.length + 1)
        modify fun session =>
          { session with aliases := (name, value) :: session.aliases.filter (·.1 ≠ name) }
    return status

/-- Has names stand for nothing but themselves. -/
def unalias (words : List Octets) : ShellM Nat := do
  let given ← optionsOf ['a'] [] words
  if given.has 'a' then modify fun session => { session with aliases := [] }
  let mut status := 0
  for name in given.arguments do
    if ((← get).aliases.lookup name).isSome then
      modify fun session => { session with aliases := session.aliases.filter (·.1 ≠ name) }
    else
      warn ("unalias: ".toList ++ name ++ " not found\n".toList)
      status := 1
  return status

end Shell

end CallForest
