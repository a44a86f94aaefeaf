import CallForest.Shell.Tool.Make

/-! # Tools that change permissions

Of the permissions of a file it is only known whether the file can be launched.

* `Shell.Tool.modeLetters`: how permissions are shown.
* `Shell.Tool.chmod`: changes permissions. -/

namespace CallForest

namespace Shell

namespace Tool

/-! ## Showing permissions -/

/-- The permissions of an entry. -/
def modeOf : FileEntry → Nat
  | .directory | .file _ true | .program _ => 0o755
  | .file _ false => 0o644
  | .sink => 0o666

/-- Permissions as letters. -/
def modeLetters (mode : Nat) : Octets :=
  let bit := fun (place : Nat) (letter : Char) => if mode.testBit place then letter else '-'
  let launch := fun (place special : Nat) (letter : Char) =>
    match mode.testBit special, mode.testBit place with
    | true, true => letter
    | true, false => letter.toUpper
    | false, true => 'x'
    | false, false => '-'
  [bit 8 'r', bit 7 'w', launch 6 11 's', bit 5 'r', bit 4 'w', launch 3 10 's', bit 2 'r',
    bit 1 'w', launch 0 9 't']

/-- Permissions as four octal digits. -/
def modeDigits (mode : Nat) : Octets :=
  [mode / 512 % 8, mode / 64 % 8, mode / 8 % 8, mode % 8].flatMap Octets.ofNat

/-! ## Changing permissions -/

/-- How permissions are changed. -/
structure ModeRequest where
  /-- What the tool is called. -/
  name : Octets
  /-- How they become others. -/
  change : ModeChange
  /-- The permissions that count only if a party is named. -/
  mask : Nat
  /-- Whether what is in directories is changed too. -/
  deep : Bool
  /-- Whether nothing is said of files that are not there. -/
  silent : Bool
  /-- Whether it is said what is done. -/
  tells : Bool
  /-- Whether that is said only if anything changes. -/
  brief : Bool

/-- Says what is done. -/
def ModeRequest.say (request : ModeRequest) (path : Octets) (before after : Nat) : ShellM Unit := do
  let shown := fun (mode : Nat) => modeDigits mode ++ " (".toList ++ modeLetters mode ++ [')']
  if before ≠ after && (request.tells || request.brief) then
    print <| "mode of ".toList ++ quoted path ++ " changed from ".toList ++ shown before ++
      " to ".toList ++ shown after ++ ['\n']
  else if request.tells then
    print ("mode of ".toList ++ quoted path ++ " retained as ".toList ++ shown before ++ ['\n'])

/-- Changes the permissions of what a path leads to, at most `fuel` directories deep. -/
def ModeRequest.apply (request : ModeRequest) : Nat → Octets → ShellM Nat
  | 0, _ => return 1
  | fuel + 1, path => do
    match ← entryOf path with
    | .error fault =>
      let status ← if request.silent then pure 1
        else reportFault request.name ("cannot access ".toList ++ quoted path) fault 1
      if request.tells then print (quoted path ++ " could not be accessed\n".toList)
      return status
    | .ok entry =>
      let before := modeOf entry
      let after := request.change.apply request.mask (entry = .directory) before
      let text := Octets.toText path
      let status ← changeFiles request.name path fun files =>
        files.setExecutable text (after &&& 0o111 ≠ 0)
      request.say path before after
      if entry = .directory && request.deep then
        let files := (← get).world.files
        let names := ((files.directoryAt text).toOption.elim [] files.newestChildren)
        let inside ← greatestOf (fun name => apply request fuel (pathIn path name))
          (names.map Octets.ofText)
        return max status inside
      else return status

/-- How permissions are changed. -/
def chmodUsage : Usage where
  plain := "Rcfv".toList
  valued := ['=']
  long := [("changes", 'c'), ("no-preserve-root", '!'), ("preserve-root", '!'), ("quiet", 'f'),
    ("recursive", 'R'), ("reference", '='), ("silent", 'f'), ("verbose", 'v')]

/-- Whether a word is a mode that begins with a dash. -/
def isTakingMode (word : Octets) : Bool :=
  match word with
  | '-' :: letter :: _ => "rwxXstugoa,+=01234567".toList.contains letter
  | _ => false

/-- The words in front of two dashes, and the others. -/
def frontWords (words : List Octets) : List Octets × List Octets :=
  (words.takeWhile (· ≠ ['-', '-']), words.dropWhile (· ≠ ['-', '-']))

/-- Changes the permissions of files. -/
def changeModes (name mode : Octets) (given : Given) (change : Option ModeChange)
    (paths : List Octets) : ShellM Nat := do
  match change, paths with
  | none, _ => misuse name ("invalid mode: ".toList ++ quoted mode) 1
  | some _, [] => lacksOperand name
  | some change, paths =>
    let session ← get
    let last? := (given.options.reverse.find? fun (option, _) => ['v', 'c'].contains option).map
      Prod.fst
    let request : ModeRequest :=
      ⟨name, change, session.mask, given.has 'R', given.has 'f', last? = some 'v', last? = some 'c'⟩
    greatestOf (request.apply (session.world.files.entries.length + 2)) paths

/-- **Changes permissions.** -/
def chmod : Tool := fun words =>
  let (front, behind) := frontWords words.tail
  let taken := front.filter isTakingMode
  let others := front.filter (!isTakingMode ·)
  chmodUsage.run (words.headD [] :: others ++ behind) fun name given => do
    match given.argument? '=', taken, given.arguments with
    | some _, _ :: _, _ => misuse name "cannot combine mode and --reference options".toList 1
    | some path, [], paths =>
      match ← entryOf path with
      | .error fault =>
        reportFault name ("failed to get attributes of ".toList ++ quoted path) fault 1
      | .ok entry => changeModes name [] given (some (.all (modeOf entry))) paths
    | none, [], [] => lacksOperand name
    | none, [], [mode] => lacksOperandBehind name mode
    | none, [], mode :: paths => changeModes name mode given (ModeChange.parse? mode) paths
    | none, taken, paths =>
      let mode := [','].intercalate taken
      changeModes name mode given (ModeChange.parse? mode) paths

end Tool

end Shell

end CallForest
