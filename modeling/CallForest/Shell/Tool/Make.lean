import CallForest.Shell.Builtin.Mask
import CallForest.Shell.Tool.Path

/-! # Tools that make files and directories

* `Shell.Tool.changeFiles`: changes the files, or reports why that fails.
* `Shell.Tool.ModeChange`: changes of permissions.
* `Shell.Tool.mkdir`: makes directories.
* `Shell.Tool.touch`: makes files. -/

namespace CallForest

namespace Shell

namespace Tool

/-- Changes the world, or reports why that fails. -/
def changeWorld (name about : Octets) (change : World → Except SystemFault World) :
    ShellM Nat := do
  let session ← get
  match change session.world with
  | .ok world =>
    set { session with world }
    return 0
  | .error fault => reportFault name about fault 1

/-- Changes the files, or reports why that fails. -/
def changeFiles (name about : Octets) (change : FileSystem → Except SystemFault FileSystem) :
    ShellM Nat :=
  changeWorld name about fun world => return { world with files := ← change world.files }

/-- What a path leads to. -/
def entryOf (path : Octets) : ShellM (Except SystemFault FileEntry) :=
  return (← get).world.files.find (Octets.toText path)

/-! ## Permissions -/

/-- A change of permissions: all of them, or some clause by clause. -/
inductive ModeChange where
  /-- They become others. -/
  | all (mode : Nat)
  /-- They are changed by clauses. -/
  | clauses (text : Octets)

/-- Whether a text is a clause: parties, and signs with letters behind each of them. -/
def isClause (text : Octets) : Bool :=
  let behind := text.dropWhile ['u', 'g', 'o', 'a'].contains
  let signs := ['+', '-', '=']
  let groups := (behind.drop 1).splitOnP signs.contains
  behind.head?.any signs.contains && groups.all fun letters =>
    letters.all ['r', 'w', 'x', 'X', 's', 't'].contains ||
      (letters.length = 1 && letters.all ['u', 'g', 'o'].contains) ||
      (!letters.isEmpty && letters.all fun digit => (digit? 8 digit).isSome)

/-- The change that a word describes. -/
def ModeChange.parse? (word : Octets) : Option ModeChange :=
  if word.head?.any Char.isDigit then
    if word.all (fun digit => (digit? 8 digit).isSome) && digitsValue 8 word < 0o10000 then
      some (.all (digitsValue 8 word))
    else none
  else if (word.splitOn ',').all isClause then some (.clauses word)
  else none

/-- The permissions of a party that letters stand for. -/
def partyBits (mode : Nat) (isDirectory : Bool) (letters : Octets) : Nat :=
  letters.foldl (fun bits letter =>
    bits ||| if letter = 'X' && isDirectory then 1 else Permissions.ofLetter mode letter) 0

/-- The special permissions of some parties, beside those that each party has. -/
def specialBits (parties : Nat) : Nat :=
  [(6, 0o4000), (3, 0o2000), (0, 0o1000)].foldl (fun bits (place, special) =>
    if parties.testBit place then bits ||| special else bits) 0

/-- The special permissions that letters stand for. -/
def specialLetters (letters : Octets) : Nat :=
  (if letters.contains 's' then 0o6000 else 0) ||| if letters.contains 't' then 0o1000 else 0

/-- Permissions of some parties after signs with letters behind them, at most `fuel` of them. Only
bits that are `meant` can be given or taken. -/
def afterSigns (parties meant : Nat) (isDirectory : Bool) : Nat → Nat → Octets → Nat
  | 0, mode, _ | _, mode, [] => mode
  | fuel + 1, mode, sign :: rest =>
    let letters := rest.takeWhile fun character => !(['+', '-', '='].contains character)
    let special := specialBits parties
    let plain := partyBits mode isDirectory letters * parties
    let bits := (plain ||| (specialLetters letters &&& special)) &&& meant
    let mode :=
      if sign = '+' then mode ||| bits
      else if sign = '-' then mode - (mode &&& bits)
      else bits ||| (mode - (mode &&& (7 * parties ||| special)))
    afterSigns parties meant isDirectory fuel mode (rest.drop letters.length)

/-- Permissions after a clause, within a mask that counts if no party is named. -/
def afterClause (mask : Nat) (isDirectory : Bool) (mode : Nat) (text : Octets) : Nat :=
  let named := text.takeWhile ['u', 'g', 'o', 'a'].contains
  let parties := if named.isEmpty then ['a'] else named
  let parties := parties.foldl (fun bits party => bits ||| Permissions.partyBit party) 0
  let meant := if named.isEmpty then 0o7777 - mask else 0o7777
  afterSigns parties meant isDirectory (text.length + 1) mode (text.drop named.length)

/-- **Permissions after a change.** -/
def ModeChange.apply (change : ModeChange) (mask : Nat) (isDirectory : Bool) (mode : Nat) : Nat :=
  match change with
  | .all mode => mode
  | .clauses text => (text.splitOn ',').foldl (afterClause mask isDirectory) mode

/-! ## Directories -/

/-- How directories are made. -/
def mkdirUsage : Usage where
  plain := ['p', 'v', 'Z']
  valued := ['m']
  loose := ['!']
  long := [("context", '!'), ("mode", 'm'), ("parents", 'p'), ("verbose", 'v')]

/-- Makes a directory, and says so if that is asked for. -/
def makeOne (name : Octets) (given : Given) (path : Octets) : ShellM (Except SystemFault Unit) := do
  let session ← get
  match session.world.files.makeDirectory (Octets.toText path) with
  | .error fault => return .error fault
  | .ok files =>
    set { session with world := { session.world with files } }
    if given.has 'v' then
      print (name ++ ": created directory ".toList ++ quoted path ++ ['\n'])
    return .ok ()

/-- The paths of the directories that a path leads through. -/
def pathsAbove (path : Octets) : List Octets :=
  let ends := (List.range path.length).filter fun place =>
    0 < place && path[place]? = some '/' && path[place - 1]? ≠ some '/' &&
      (path.drop place).any (· ≠ '/')
  (ends.map path.take).filter fun above => !([['.'], ['.', '.']].contains (lastName above))

/-- Makes the directories above a path that are not there. -/
def makeAbove (name : Octets) (given : Given) :
    List Octets → ShellM (Except (Octets × SystemFault) Unit)
  | [] => return .ok ()
  | path :: rest => do
    match ← makeOne name given path, (← get).world.files.find (Octets.toText path) with
    | .ok _, _ | _, .ok .directory => makeAbove name given rest
    | .error .alreadyThere, _ => return .error (path, .notDirectory)
    | .error fault, _ => return .error (path, fault)

/-- Makes a directory, and the directories above it if that is asked for. -/
def makePath (name : Octets) (given : Given) (path : Octets) : ShellM Nat := do
  let refuse := fun (path : Octets) (fault : SystemFault) =>
    reportFault name ("cannot create directory ".toList ++ quoted path) fault 1
  let above ← if given.has 'p' then makeAbove name given (pathsAbove path) else pure (.ok ())
  match above with
  | .error (path, fault) => refuse path fault
  | .ok () =>
    match ← makeOne name given path with
    | .ok () => return 0
    | .error fault =>
      if given.has 'p' && (← get).world.files.isDirectory (Octets.toText path) then return 0
      else refuse path fault

/-- **Makes directories.** -/
def mkdir : Tool := fun words =>
  mkdirUsage.run words fun name given => do
    let modes := (given.argument? 'm').toList
    match given.arguments, modes.find? fun mode => (ModeChange.parse? mode).isNone with
    | [], _ => lacksOperand name
    | _, some mode =>
      report name ("invalid mode ".toList ++ quoted mode)
      return 1
    | paths, none => greatestOf (makePath name given) paths

/-! ## Files -/

/-- How files are made. -/
def touchUsage : Usage where
  plain := ['a', 'c', 'f', 'h', 'm']
  valued := ['d', 'r', 't', '@']
  long := [("date", 'd'), ("no-create", 'c'), ("no-dereference", 'h'), ("reference", 'r'),
    ("time", '@')]

/-- Whether a word is a time: a month, a day, an hour and a minute of two digits each, perhaps
behind a year and in front of a second. -/
def isStamp (word : Octets) : Bool :=
  let front := word.takeWhile (· ≠ '.')
  let behind := word.drop front.length
  let pair := fun (place : Nat) => digitsValue 10 ((front.drop place).take 2)
  let start := front.length - 8
  front.all Char.isDigit && [8, 10, 12].contains front.length &&
    (behind.isEmpty || (behind.length = 3 && behind.tail.all Char.isDigit)) &&
    0 < pair start && pair start ≤ 12 && 0 < pair (start + 2) && pair (start + 2) ≤ 31 &&
    pair (start + 4) < 24 && pair (start + 6) < 60

/-- Makes a file that is not there. -/
def touchOne (name : Octets) (given : Given) (path : Octets) : ShellM Nat := do
  match ← entryOf path with
  | .ok _ => return 0
  | .error fault =>
    let opens := !given.has 'c' && !given.has 'h' && !Path.endsOpen (Octets.toText path)
    if fault = .notFound && given.has 'c' then return 0
    else if fault = .notFound && opens then
      changeFiles name ("cannot touch ".toList ++ quoted path) fun files =>
        files.modify (Octets.toText path) id
    else
      let about := if opens then "cannot touch " else "setting times of "
      reportFault name (about.toList ++ quoted path) fault 1

/-- **Makes files** that are not there. -/
def touch : Tool := fun words =>
  touchUsage.run words fun name given => do
    let files := (← get).world.files
    let missing? := (given.argument? 'r').bind fun path =>
      match files.find (Octets.toText path) with
      | .error fault => some (path, fault)
      | .ok _ => none
    let kinds := ['d', 't', 'r'].filter given.has
    match (given.argumentsOf 't').find? (!isStamp ·), missing? with
    | some word, _ =>
      report name ("invalid date format ".toList ++ quoted word)
      return 1
    | none, missing? =>
      if given.has 't' && 1 < kinds.length then
        return ← misuse name "cannot specify times from more than one source".toList 1
      if let some (path, fault) := missing? then
        return ← reportFault name ("failed to get attributes of ".toList ++ quoted path) fault 1
      if given.arguments.isEmpty then misuse name "missing file operand".toList 1
      else greatestOf (touchOne name given) given.arguments

end Tool

end Shell

end CallForest
