import CallForest.Shell.Edit.Line
import CallForest.Shell.Edit.Reading
import CallForest.Shell.Tool.Sort

/-! # A tool that edits lines

* `Shell.Tool.ScriptPart`, `Shell.Tool.readScript`: scripts that consist of parts.
* `Shell.Tool.EditRequest`: how lines are to be edited.
* `Shell.Tool.sed`: edits the lines of files and prints them, or puts them in place of the files. -/

namespace CallForest

namespace Shell

namespace Tool

/-- Says something in the name of a tool, in front of what it has printed. -/
def tell (name text : Octets) : ShellM Unit := warn (name ++ ": ".toList ++ text ++ ['\n'])

/-- Says why something cannot be done in the name of a tool, and gives a status. -/
def tellFault (name about : Octets) (fault : SystemFault) (status : Nat) : ShellM Nat := do
  tell name (about ++ ": ".toList ++ fault.text.toList)
  return status

/-! ## Scripts -/

/-- A part of a script. -/
structure ScriptPart where
  /-- What it says. -/
  text : Octets
  /-- The file that it is from, if it is no word. -/
  file : Option Octets

/-- The parts of a script, of which one that ends in a backslash goes on in the next one. -/
def joinedParts : List ScriptPart → List ScriptPart
  | [] => []
  | part :: rest =>
    match joinedParts rest with
    | next :: others =>
      if part.text.getLast? = some '\\' then
        { next with text := part.text ++ '\n' :: next.text } :: others
      else part :: next :: others
    | [] => [part]

/-- The parts of a script that options give, or the path of one that cannot be read. -/
def givenParts (given : Given) : ShellM (Except (Octets × SystemFault) (List ScriptPart)) := do
  let files := (← get).world.files
  let input ← if (given.argumentsOf 'f').contains ['-'] then read 0 none else pure (.ok [])
  let content := fun (path : Octets) =>
    if path = ['-'] then input else (files.read (Octets.toText path)).map Octets.ofBytes
  return given.options.filterMapM fun (option, value) =>
    match option, value with
    | 'e', some text => .ok (some ⟨text, none⟩)
    | 'f', some path =>
      match content path with
      | .ok text =>
        .ok (some ⟨if text.getLast? = some '\n' then text.dropLast else text, some path⟩)
      | .error fault => .error (path, fault)
    | _, _ => .ok none

/-- Where a part of a script is in it, and a place in the part at which `read` characters of it have
been read. -/
def placeText (parts : List ScriptPart) (part read : Nat) : Octets :=
  let last := parts.getD part ⟨[], none⟩
  match last.file with
  | some path =>
    let line := ((last.text.take read).filter (· = '\n')).length + 1
    "file ".toList ++ path ++ " line ".toList ++ Octets.ofNat line
  | none =>
    let number := ((parts.take (part + 1)).filter (·.file.isNone)).length
    "-e expression #".toList ++ Octets.ofNat number ++ ", char ".toList ++ Octets.ofNat read

/-- What is said of a fault at a place, and the status. -/
def scriptRefusal (place : Octets) (fault : Edit.ScriptFault) : Octets × Nat :=
  if fault matches .odd _ then (fault.message.toList, 4)
  else (place ++ ": ".toList ++ fault.message.toList, 1)

/-- Reading a script, with the files that it writes to. What is said of a fault has a status. -/
abbrev PartsM := ExceptT (Octets × Nat) (StateM (List Octets))

/-- Reads the parts of a script behind some others, within some blocks. -/
def readParts (extended : Bool) (parts : List ScriptPart) (number : Nat)
    (blocks : List Edit.OpenBlock) : List ScriptPart → PartsM (List Edit.Step)
  | [] =>
    match blocks with
    | [] => return []
    | block :: _ =>
      let part := parts.getD block.part ⟨[], none⟩
      let read := if part.file.isSome then part.text.length - block.left else 0
      throw (scriptRefusal (placeText parts block.part read) .openBlock)
  | part :: rest => do
    match ← ((Edit.readSteps extended number (part.text.length + 1) blocks).run part.text).run with
    | .error (fault, left) =>
      throw (scriptRefusal (placeText parts number (part.text.length - left)) fault)
    | .ok ((steps, blocks), _) =>
      return steps ++ (← readParts extended parts (number + 1) blocks rest)

/-- Reads a script, which begins with a mark if lines are printed only by commands. -/
def readScript (extended : Bool) (parts : List ScriptPart) : PartsM (Bool × List Edit.Step) := do
  let joined := joinedParts parts
  let steps ← readParts extended joined 0 [] joined
  if Edit.lacksExpression steps then
    let place := placeText (joined.filter (·.file.isNone)) (joined.length - 1) 0
    throw (scriptRefusal place .noExpression)
  else
    let first := (joined.head?.elim [] ScriptPart.text).takeWhile (· ≠ '\n')
    return (first = "#n".toList, steps)

/-! ## Files -/

/-- How lines are to be edited. -/
structure EditRequest where
  /-- What the tool is called. -/
  name : Octets
  /-- Whether lines are printed only by commands. -/
  quiet : Bool
  /-- The character that ends lines. -/
  mark : Char
  /-- How wide rows of spelt lines are. -/
  width : Nat
  /-- Whether the lines are put in place of the files, and what the files are called from then on,
  if they are kept. -/
  inPlace : Option Octets
  /-- The script. -/
  steps : List Edit.Step

/-- What a file is to be called that has been edited. A star in the ending stands for its path. -/
def keptPath (ending path : Octets) : Octets :=
  if ending.contains '*' then
    ending.flatMap fun character => if character = '*' then path else [character]
  else path ++ ending

namespace EditRequest

/-- What lines are edited in that are from some files, some of them without ends there. -/
def setting (request : EditRequest) (files : FileSystem) (origins : List (Nat × Octets))
    (unended : List Nat) : Edit.Setting :=
  ⟨request.quiet, request.mark, request.width, request.inPlace.isNone,
    fun path => ((files.read (Octets.toText path)).toOption.map Octets.ofBytes).getD [], origins,
    unended⟩

/-- Edits the lines of a text. -/
def edit (request : EditRequest) (origins : List (Nat × Octets)) (unended : List Nat)
    (text : Octets) : ShellM Edit.Edited :=
  return Edit.run (request.setting (← get).world.files origins unended) request.steps text

/-- Writes what a script writes to files, and gives the status. -/
def save (name : Octets) : List (Octets × Edit.Rows) → ShellM Nat
  | [] => return 0
  | (path, rows) :: rest => do
    if path = Edit.reportPath then
      warn rows.text
      save name rest
    else if path = Edit.outputPath then
      print rows.text
      save name rest
    else
      match ← writeFile path rows.text with
      | .ok () => save name rest
      | .error fault => tellFault name ("couldn't open file ".toList ++ path) fault 4

/-- Says that a file cannot be read, and gives whether reading has broken off, and the status. -/
def refuseFile (request : EditRequest) (path : Octets) (fault : SystemFault) :
    ShellM (Bool × Nat) := do
  if fault = .isDirectory || path = ['-'] && request.inPlace.isNone then
    let shown := if path = ['-'] then "stdin".toList else path
    return (true, ← tellFault request.name ("read error on ".toList ++ shown) fault 4)
  else return (false, ← tellFault request.name ("can't read ".toList ++ path) fault 2)

/-- Puts a text in place of that of a file, which is kept under another path if the ending says
so. Gives the status. -/
def replaceFile (request : EditRequest) (ending path text : Octets) : ShellM Nat := do
  let session ← get
  let source := Octets.toText path
  let executable := session.world.files.isExecutable source
  let moved := do
    let target := keptPath ending path
    let world ← if ending.isEmpty then session.world.remove source
      else session.world.rename source (Octets.toText target)
    let files ← world.files.write source (Octets.toBytes text)
    return { world with files := ← files.setExecutable source executable }
  match moved with
  | .ok world =>
    set { session with world }
    return 0
  | .error fault => tellFault request.name ("cannot rename ".toList ++ path) fault 4

/-- What is written to files, behind what has been written to them. -/
def joinedSaved (front behind : List (Octets × Edit.Rows)) : List (Octets × Edit.Rows) :=
  if front.isEmpty then behind
  else front.map fun (path, rows) => (path, rows ++ (behind.lookup path).getD [])

/-- What is left of files that are edited one after the other. -/
structure Outcome where
  /-- The end that is behind what has been printed if something else is. -/
  owed : Octets
  /-- What is to be written to files, in the order in which it is. -/
  saved : List (Octets × Edit.Rows)

/-- Prints rows behind those of other files. -/
def Outcome.print (outcome : Outcome) (rows : Edit.Rows) : ShellM Outcome := do
  if rows.isEmpty then return outcome
  else
    Shell.print (outcome.owed ++ rows.text)
    let owed := if rows.isOwed then (rows.getLast?.map Edit.Row.mark).toList else []
    return { outcome with owed }

/-- Edits files one after the other, each in its place or printed on its own, and gives the status.
-/
def editEach (request : EditRequest) (outcome : Outcome) : List Octets → ShellM (Outcome × Nat)
  | [] => return (outcome, 0)
  | path :: rest => do
    let source := if request.inPlace.isSome && path = ['-'] then "./-".toList else path
    match ← contentOf source with
    | .error fault =>
      if request.inPlace.isSome && fault = .isDirectory then
        tell request.name ("couldn't edit ".toList ++ path ++ ": not a regular file".toList)
        return (outcome, 4)
      else
        match ← request.refuseFile path fault with
        | (true, status) => return (outcome, status)
        | (false, status) =>
          let (outcome, statuses) ← editEach request outcome rest
          return (outcome, max status statuses)
    | .ok text =>
      let edited ← request.edit [(1, path)] [] text
      let (outcome, status) ← match request.inPlace with
        | some ending =>
          let status ← request.replaceFile ending source edited.printed.text
          pure (outcome, status)
        | none => do
          let outcome ← outcome.print edited.printed
          pure (outcome, 0)
      let outcome := { outcome with saved := joinedSaved outcome.saved edited.saved }
      match edited.status with
      | some code => return (outcome, code)
      | none =>
        if 0 < status then return (outcome, status) else editEach request outcome rest

/-- A text whose lines are from files. -/
structure Source where
  /-- The text. -/
  text : Octets
  /-- The files, behind the numbers of their first lines, the last one first. -/
  origins : List (Nat × Octets)
  /-- The lines that have no end in their files. -/
  unended : List Nat
  /-- The files that cannot be read, behind the places in the text where they would be, the last one
  first. -/
  faults : List (Nat × Octets × SystemFault)

/-- Whether a script asks which line is the last one. -/
def asksLast (request : EditRequest) : Bool :=
  request.steps.any fun step =>
    [step.first, step.last].any fun address => address matches some .last

/-- Whether a script looks for a line behind the one that is edited. A directory behind a file is
passed over then. -/
def looksAhead (request : EditRequest) : Bool :=
  request.asksLast || request.steps.any fun step =>
    step.action matches .next || step.action matches .join

/-- The text of files, one behind the other. Nothing is read behind a file that breaks off. -/
def joinedText (request : EditRequest) (source : Source) : List Octets → ShellM Source
  | [] => return source
  | path :: rest => do
    let gapped := source.text.getLast?.any (· ≠ request.mark)
    let gap := if gapped then [request.mark] else []
    match ← contentOf path with
    | .ok [] => joinedText request source rest
    | .ok text =>
      let lines := (source.text.filter (· = request.mark)).length + gap.length
      let unended := if gapped then lines :: source.unended else source.unended
      let text := source.text ++ gap ++ text
      let origins := (lines + 1, path) :: source.origins
      joinedText request { source with text, origins, unended } rest
    | .error fault =>
      if fault = .isDirectory && !source.text.isEmpty && request.looksAhead then
        joinedText request source rest
      else
        let place := source.text.length + gap.length
        let source := { source with faults := (place, path, fault) :: source.faults }
        if fault = .isDirectory || path = ['-'] then return source
        else joinedText request source rest

/-- Says which files cannot be read, and gives the status. -/
def refuseFiles (request : EditRequest) : List (Nat × Octets × SystemFault) → ShellM Nat
  | [] => return 0
  | (_, path, fault) :: rest => do
    match ← request.refuseFile path fault with
    | (true, status) => return status
    | (false, status) => return max status (← refuseFiles request rest)

/-- Edits the input alone. What is not looked at is left there; of a pipe `block` characters are
taken at once. -/
def editInput (request : EditRequest) (block : Nat) : ShellM Nat := do
  let setting := request.setting (← get).world.files [(1, ['-'])] []
  let edited := Edit.run setting request.steps
  match ← takeInput block fun text => text.length - (edited text).left with
  | .error fault => return (← request.refuseFile ['-'] fault).2
  | .ok text =>
    let edited := edited text
    print edited.printed.text
    let status ← save request.name edited.saved
    return if status = 0 then edited.status.getD 0 else status

/-- Edits files as if they were one. -/
def editJoined (request : EditRequest) (files : List Octets) : ShellM Nat := do
  let source ← request.joinedText ⟨[], [], [], []⟩ files
  let edited ← request.edit source.origins source.unended source.text
  let read := source.text.length - edited.left
  let isMet := fun (place : Nat) =>
    edited.status.isNone || place < read || request.asksLast && place = read
  let refusal ← request.refuseFiles (source.faults.reverse.filter (isMet ·.1))
  print edited.printed.text
  let status ← save request.name edited.saved
  return if refusal ≠ 0 then refusal
    else if status = 0 then edited.status.getD 0 else status

end EditRequest

/-! ## Options -/

/-- How lines are edited. -/
def sedUsage : Usage where
  plain := "nErsuzb!".toList
  valued := ['e', 'f', 'l']
  loose := ['i']
  long := [("binary", 'b'), ("debug", '!'), ("expression", 'e'), ("file", 'f'),
    ("follow-symlinks", '!'), ("in-place", 'i'), ("line-length", 'l'), ("null-data", 'z'),
    ("posix", '!'), ("quiet", 'n'), ("regexp-extended", 'E'), ("sandbox", '!'),
    ("separate", 's'), ("silent", 'n'), ("unbuffered", 'u'), ("zero-terminated", 'z')]

/-- Edits lines as some commands say. -/
def runScript (name : Octets) (given : Given) (quiet : Bool) (steps : List Edit.Step)
    (paths : List Octets) : ShellM Nat := do
  let inPlace := if given.has 'i' then some ((given.argument? 'i').getD []) else none
  let request : EditRequest := {
    name, quiet, mark := if given.has 'z' then '\x00' else '\n'
    width := ((given.argument? 'l').bind count?).getD 70, inPlace, steps }
  match Edit.missingLabel? steps with
  | some label =>
    tell name ("can't find label for jump to \x60".toList ++ label ++ ['\''])
    return 4
  | none =>
    if inPlace.isSome && paths.isEmpty then
      tell name "no input files".toList
      return 4
    else if inPlace.isSome || given.has 's' then
      let files := inputs { given with arguments := paths }
      let (outcome, status) ← request.editEach ⟨[], []⟩ files
      return max status (← EditRequest.save name outcome.saved)
    else if paths.isEmpty || paths = [['-']] then
      request.editInput (if given.has 'u' then 1 else 4096)
    else request.editJoined paths

/-- **Edits lines.** The files that a script writes to are made before anything is read. -/
def sed : Tool := fun words =>
  sedUsage.run words fun name given => do
    match ← givenParts given with
    | .error (path, fault) => tellFault name ("couldn't open file ".toList ++ path) fault 4
    | .ok named =>
      let (parts, paths) :=
        if named.isEmpty then
          ((given.arguments.take 1).map fun text => (⟨text, none⟩ : ScriptPart),
            given.arguments.drop 1)
        else (named, given.arguments)
      if parts.isEmpty then
        warn <| "Usage: ".toList ++ name ++
          " [OPTION]... \x7bscript-only-if-no-other-script\x7d [input-file]...\n".toList
        return 1
      else
        let (script, written) := (readScript (given.has 'E' || given.has 'r') parts).run.run []
        match ← EditRequest.save name (written.eraseDups.map (·, [])), script with
        | 0, .error (text, status) =>
          tell name text
          return status
        | 0, .ok (quiet, steps) => runScript name given (given.has 'n' || quiet) steps paths
        | status, _ => return status

end Tool

end Shell

end CallForest
