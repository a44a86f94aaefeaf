import CallForest.Shell.Tool.Basic

/-! # Tools that copy

* `Shell.Tool.cat`: copies files, one after the other.
* `Shell.Tool.tee`: copies the input to more than one file. -/

namespace CallForest

namespace Shell

namespace Tool

/-- The files that a tool reads: its arguments, or the input if there are none. -/
def inputs (given : Given) : List Octets :=
  if given.arguments.isEmpty then [['-']] else given.arguments

/-! ## Files behind each other -/

/-- How a character is shown if only visible ones are. -/
def visible (character : Char) : Octets :=
  let code := character.toNat
  let low := code % 128
  let front := if 128 ≤ code then "M-".toList else []
  if low < 32 then front ++ ['^', Char.ofNat (low + 64)]
  else if low = 127 then front ++ "^?".toList
  else front ++ [Char.ofNat low]

/-- How lines are copied. -/
structure CopyStyle where
  /-- Whether lines are numbered. -/
  numbers : Bool
  /-- Whether empty lines are left without a number. -/
  skipsEmpty : Bool
  /-- Whether of empty lines in a row only one is copied. -/
  squeezes : Bool
  /-- Whether ends of lines are marked. -/
  showsEnds : Bool
  /-- Whether tabs are marked. -/
  showsTabs : Bool
  /-- Whether other characters that cannot be seen are. -/
  showsOthers : Bool

/-- How lines are copied with some options. -/
def CopyStyle.of (given : Given) : CopyStyle :=
  let any := fun (options : List Char) => options.any given.has
  ⟨any ['n', 'b'], any ['b'], any ['s'], any ['E', 'A', 'e'], any ['T', 'A', 't'],
    any ['v', 'A', 'e', 't']⟩

/-- How far copying has come. -/
structure CopyPlace where
  /-- The number of the last numbered line. -/
  number : Nat
  /-- Whether the next character begins a line. -/
  starts : Bool
  /-- Whether there is an empty line in front. -/
  behindEmpty : Bool

namespace CopyStyle

/-- How the characters of a line are shown. A return at the end of a line is shown with its end. -/
def inside (style : CopyStyle) (line : Octets) (ended : Bool) : Octets :=
  let body := if style.showsEnds && ended && line.getLast? = some '\r' then line.dropLast else line
  let shown := body.flatMap fun character =>
    if character = '\t' then (if style.showsTabs then "^I".toList else ['\t'])
    else if style.showsOthers then visible character
    else [character]
  shown ++ if body.length < line.length then "^M".toList else []

/-- Copies a line, which may be the rest of one. -/
def line (style : CopyStyle) (place : CopyPlace) (line : Octets) : Octets × CopyPlace :=
  let ended := line.getLast? = some '\n'
  let isEmpty := place.starts && line = ['\n']
  if isEmpty && style.squeezes && place.behindEmpty then ([], place)
  else
    let numbered := style.numbers && place.starts && !(isEmpty && style.skipsEmpty)
    let digits := Octets.ofNat (place.number + 1)
    let front :=
      if numbered then List.replicate (6 - digits.length) ' ' ++ digits ++ ['\t'] else []
    let ending := if !ended then [] else if style.showsEnds then ['$', '\n'] else ['\n']
    (front ++ style.inside (bare line) ended ++ ending,
      ⟨if numbered then place.number + 1 else place.number, ended, isEmpty⟩)

/-- Copies lines. -/
def lines (style : CopyStyle) : CopyPlace → List Octets → Octets × CopyPlace
  | place, [] => ([], place)
  | place, line :: rest =>
    let (shown, place) := style.line place line
    let (others, place) := style.lines place rest
    (shown ++ others, place)

end CopyStyle

/-- Whether a file is the one that the output is written to, at a place behind the one where it is
read. -/
def isOutput (path : Octets) : ShellM Bool := do
  let session ← get
  let openingOf := fun (descriptor : Nat) =>
    (session.descriptors.lookup descriptor).bind (session.world.openings.lookup ·)
  match openingOf 1 with
  | some (.file target place _ _ appending) =>
    let place := if appending then (session.world.content target).length else place
    if path = ['-'] then
      match openingOf 0 with
      | some (.file source start ..) => return source = target && start < place
      | _ => return false
    else
      match session.world.files.locate (Octets.toText path) with
      | .ok (source, .file ..) => return source = target && 0 < place
      | _ => return false
  | _ => return false

/-- Whether a file is the one that the output is written to. -/
def isOutputFile (path : Octets) : ShellM Bool := do
  let session ← get
  let opening := (session.descriptors.lookup 1).bind (session.world.openings.lookup ·)
  match opening, session.world.files.locate (Octets.toText path) with
  | some (.file target ..), .ok (source, .file ..) => return source = target && path ≠ ['-']
  | _, _ => return false

/-- Copies files in a style, and gives the greatest status. -/
def copyFiles (name : Octets) (style : Option CopyStyle) : CopyPlace → List Octets → ShellM Nat
  | _, [] => return 0
  | place, path :: rest => do
    if ← isOutput path then
      report name (quotedIfNeeded path ++ ": input file is output file".toList)
      return max 1 (← copyFiles name style place rest)
    else
      match ← contentOf path with
      | .error fault =>
        let status ← reportFault name (quotedIfNeeded path) fault 1
        return max status (← copyFiles name style place rest)
      | .ok text =>
        let (shown, place) := style.elim (text, place) fun style => style.lines place (linesOf text)
        match ← write 1 shown with
        | .ok () => copyFiles name style place rest
        | .error fault => reportFault name "write error".toList fault 1

/-- How files are copied. -/
def catUsage : Usage where
  plain := "AbeEnstTuv".toList
  long := [("number-nonblank", 'b'), ("number", 'n'), ("squeeze-blank", 's'),
    ("show-nonprinting", 'v'), ("show-ends", 'E'), ("show-tabs", 'T'), ("show-all", 'A')]

/-- Copies files, one after the other. -/
def cat : Tool := fun words =>
  catUsage.run words fun name given => do
    if ((← get).descriptors.lookup 1).isNone then
      return ← reportFault name "standard output".toList .badDescriptor 1
    let plain := given.options.all (·.1 = 'u')
    let style := if plain then none else some (CopyStyle.of given)
    let status ← copyFiles name style ⟨0, true, false⟩ (inputs given)
    if ((← get).descriptors.lookup 0).isNone && (inputs given).contains ['-'] then
      reportFault name "closing standard input".toList .badDescriptor 1
    else return status

/-! ## More than one output -/

/-- Opens files, and gives the status and the numbers of their streams. -/
def openEach (name : Octets) (mode : OpenMode) : List Octets → ShellM (Nat × List Nat)
  | [] => return (0, [])
  | path :: rest => do
    let (status, numbers) ← match ← openFile (Octets.toText path) mode with
      | .ok number => pure (0, [number])
      | .error fault => pure (← reportFault name (quotedIfNeeded path) fault 1, [])
    let (statuses, others) ← openEach name mode rest
    return (max status statuses, numbers ++ others)

/-- How the input is copied to files. -/
def teeUsage : Usage where
  plain := ['a', 'i', 'p']
  loose := ['!']
  long := [("append", 'a'), ("ignore-interrupts", 'i'), ("output-error", '!')]

/-- The option whose argument says what errors of the output mean. -/
def errorWords : List WordOption :=
  [⟨'!', "--output-error", [["warn"], ["warn-nopipe"], ["exit"], ["exit-nopipe"]]⟩]

/-- Copies the input to the output and to files. -/
def tee : Tool := fun words =>
  teeUsage.run words fun name given => do
    if (← chosenWords name errorWords [] given.options).isNone then return 1
    let mode := if given.has 'a' then .append else .overwrite
    let (status, numbers) ← openEach name mode given.arguments
    match ← read 0 none with
    | .error fault =>
      let status ← reportFault name "read error".toList fault 1
      if fault = .badDescriptor then reportFault name "standard input".toList fault 1
      else return status
    | .ok text =>
      let written ← write 1 text
      for number in numbers do
        match (← get).world.write number text with
        | .error _ => pure ()
        | .ok world => modify fun session => { session with world }
      match written with
      | .ok () => return status
      | .error fault => reportFault name (quoted "standard output".toList) fault 1

end Tool

end Shell

end CallForest
