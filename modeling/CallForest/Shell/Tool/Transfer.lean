import CallForest.Shell.Tool.Make

/-! # Tools that give files other places

A file is copied or moved to a path, or into a directory under the name that it has.

* `Shell.Tool.Transfer`: how files are copied or moved.
* `Shell.Tool.cp`: copies files, and directories with everything in them.
* `Shell.Tool.mv`: moves files and directories. -/

namespace CallForest

namespace Shell

namespace Tool

/-- How a file is kept that is in the way of another one. -/
inductive Backup where
  /-- It is not. -/
  | none
  /-- Under its path with an ending. -/
  | simple
  /-- Under its path with a number. -/
  | numbered
  /-- With a number if another one is kept so, and with an ending if not. -/
  | existing
  deriving DecidableEq

/-- What is done about a file that is in the way. -/
inductive Overwriting where
  /-- It is overwritten. -/
  | always
  /-- It is overwritten if there is leave. -/
  | asked
  /-- It stays. -/
  | never
  deriving DecidableEq

/-- How files are copied or moved. -/
structure Transfer where
  /-- What the tool is called. -/
  name : Octets
  /-- Whether files are moved. -/
  moves : Bool
  /-- Whether directories are copied with everything in them. -/
  deep : Bool
  /-- Whether files that are copied can be launched as far as the others can. -/
  preserves : Bool
  /-- What is done about files that are in the way. -/
  overwriting : Overwriting
  /-- Whether files that are in the way stay if they are as new. -/
  updates : Bool
  /-- How files are kept that are in the way. -/
  backup : Backup
  /-- The ending of files that are kept. -/
  ending : Octets
  /-- Whether nothing is copied of what is in files. -/
  hollow : Bool
  /-- Whether it is said what is done. -/
  tells : Bool
  /-- Whether files get another name in place of a copy. -/
  links : Bool
  /-- Whether what is in the way of a file is taken away. -/
  forced : Bool

/-- What has been done so far. -/
structure Transferred where
  /-- The locations that words have been copied to. -/
  targets : List Location
  /-- The files that words led to. -/
  sources : List Location
  /-- The directory that was made first for a word. -/
  made : Option Location
  /-- Whether that directory is among what is to be copied. -/
  intoItself : Bool

/-- Nothing has been done. -/
def Transferred.nothing : Transferred := ⟨[], [], none, false⟩

/-! ## One file -/

namespace Transfer

/-- Where a path leads, if there is something. -/
def locationOf (path : Octets) : ShellM (Option Location) := do
  return ((← get).world.files.locate (Octets.toText path)).toOption.map Prod.fst

/-- The path that what is in the way of a path is kept under. -/
def backupPath (transfer : Transfer) (files : FileSystem) (path : Octets) : Octets :=
  let ends := fun (number : Nat) => path ++ ".~".toList ++ Octets.ofNat number ++ ['~']
  let isThere := fun (number : Nat) => (files.find (Octets.toText (ends number))).isOk
  let numbers := (List.range (files.entries.length + 1)).filter isThere
  let next := (numbers.getLast?.getD 0) + 1
  if transfer.backup = .numbered || (transfer.backup = .existing && !numbers.isEmpty) then ends next
  else path ++ transfer.ending

/-- Says what is done. -/
def say (transfer : Transfer) (word : String) (source target : Octets) (kept : Option Octets) :
    ShellM Unit := do
  let behind := kept.elim [] fun path => " (backup: ".toList ++ quoted path ++ [')']
  if transfer.tells then
    print (word.toList ++ quoted source ++ " -> ".toList ++ quoted target ++ behind ++ ['\n'])

/-- Reports something, and gives the status of a failure. -/
def refuse (transfer : Transfer) (text : Octets) : ShellM Nat := do
  report transfer.name text
  return 1

/-- Whether an entry is as new as another one. -/
def isAsNew (files : FileSystem) (entry other : Location) : Bool :=
  let place := fun (location : Location) => files.entries.findIdx (·.1 = location)
  place other ≤ place entry

/-- What keeps a file from being copied or moved to a path where something is: the status, if
anything does. -/
def hindrance (transfer : Transfer) (past : Transferred) (source target : Octets)
    (entry there : FileEntry) : ShellM (Option Nat) := do
  let from? ← locationOf source
  let to? ← locationOf target
  let asNew := isAsNew (← get).world.files (to?.getD []) (from?.getD [])
  let canAsk := transfer.moves || entry ≠ .directory
  let keeps := transfer.backup ≠ .none
  if from? = to? then
    if transfer.links then return some 0
    return ← transfer.refuse (quoted source ++ " and ".toList ++ quoted target ++
      " are the same file".toList)
  if transfer.updates && entry ≠ .directory && asNew then return some 0
  if canAsk && transfer.overwriting = .never then return some 0
  if canAsk && transfer.overwriting = .asked then
    if !(← confirms transfer.name ("overwrite ".toList ++ quoted target)) then return some 1
  if there ≠ .directory && entry = .directory && !(transfer.moves && keeps) then
    return ← transfer.refuse ("cannot overwrite non-directory ".toList ++ quoted target ++
      " with directory ".toList ++ quoted source)
  if entry ≠ .directory && there = .directory && !(transfer.moves && keeps) then
    return ← transfer.refuse ("cannot overwrite directory ".toList ++ quoted target ++
      " with non-directory".toList)
  if there ≠ .directory && transfer.backup ≠ .numbered && to?.any past.targets.contains then
    return ← transfer.refuse ("will not overwrite just-created ".toList ++ quoted target ++
      " with ".toList ++ quoted source)
  return none

/-- What keeps a file from being copied or moved to a path, if anything does. -/
def obstacle (transfer : Transfer) (past : Transferred) (source target : Octets)
    (entry : FileEntry) : Except SystemFault FileEntry → ShellM (Option Nat)
  | .ok there => transfer.hindrance past source target entry there
  | .error .notFound => return none
  | .error fault =>
    return ← reportFault transfer.name ("cannot stat ".toList ++ quoted target) fault 1

/-- Keeps what is in the way of a path, and gives the path that it is kept under. -/
def setAside (transfer : Transfer) (target : Octets) (there : Except SystemFault FileEntry) :
    ShellM (Option Octets) := do
  let stays := transfer.backup = .none || (!transfer.moves && there.toOption = some .directory)
  if stays || !there.isOk then return none
  else
    let session ← get
    let path := transfer.backupPath session.world.files target
    match session.world.rename (Octets.toText target) (Octets.toText path) with
    | .ok world =>
      set { session with world }
      return some path
    | .error _ => return none

/-! ## Copying -/

/-- Copies a file to a path. -/
def copyFile (transfer : Transfer) (entry : FileEntry) (source target : Octets) : ShellM Nat := do
  let text := Octets.toText target
  let isNew := !((← get).world.files.find text).isOk
  let about := if transfer.links then
      "cannot create hard link ".toList ++ quoted target ++ " to ".toList ++ quoted source
    else "cannot create regular file ".toList ++ quoted target
  let (content, executable) := match entry with
    | .file content executable => (content, executable)
    | .program _ => ([0], true)
    | _ => ([], false)
  if !isNew && transfer.links && transfer.overwriting = .always && !transfer.forced then
    reportFault transfer.name about .alreadyThere 1
  else if isNew && Path.endsOpen text then
    reportFault transfer.name about (if transfer.links then .notFound else .notDirectory) 1
  else changeFiles transfer.name about fun files => do
    let files ← if transfer.hollow then files.modify text id else files.write text content
    if isNew || transfer.preserves || transfer.links then files.setExecutable text executable
    else return files

/-- Makes the directory that a directory is copied to, unless it is there. -/
def copyDirectory (transfer : Transfer) (past : Transferred) (source target : Octets)
    (isThere : Bool) : ShellM (Transferred × Nat) := do
  if isThere then return (past, 0)
  else
    let status ← changeFiles transfer.name ("cannot create directory ".toList ++ quoted target)
      (·.makeDirectory (Octets.toText target))
    if status = 0 then transfer.say "" source target none
    let to? ← locationOf target
    return ({ past with made := past.made.orElse fun _ => to? }, status)

/-- Copies what a path leads to, at most `fuel` directories deep, for the word `top`, which is to be
copied to `goal`. -/
def copyBelow (transfer : Transfer) (top goal : Octets) :
    Nat → Transferred → Octets → Octets → ShellM (Transferred × Nat)
  | 0, past, _, _ => return (past, 1)
  | fuel + 1, past, source, target => do
    let from? ← locationOf source
    match ← entryOf source with
    | .error fault =>
      return (past, ← reportFault transfer.name ("cannot stat ".toList ++ quoted source) fault 1)
    | .ok entry =>
      let there ← entryOf target
      match ← transfer.obstacle past source target entry there with
      | some status => return (past, status)
      | none =>
        if entry ≠ .directory then
          let kept ← transfer.setAside target there
          transfer.say "" source target kept
          return (past, ← transfer.copyFile entry source target)
        else if from? = past.made then
          return ({ past with intoItself := true },
            ← transfer.refuse ("cannot copy a directory, ".toList ++ quoted top ++
              ", into itself, ".toList ++ quoted goal))
        else
          match ← transfer.copyDirectory past source target there.isOk with
          | (past, 0) =>
            let files := (← get).world.files
            let names := (from?.elim [] files.newestChildren).reverse
            names.foldlM (fun (past, worst) name => do
              let inner := fun (path : Octets) => pathIn path (Octets.ofText name)
              let (past, status) ← if past.intoItself then pure (past, 0)
                else copyBelow transfer top goal fuel past (inner source) (inner target)
              return (past, max worst status)) (past, 0)
          | result => return result

/-- Copies what a word leads to. -/
def copy (transfer : Transfer) (past : Transferred) (source target : Octets) :
    ShellM (Transferred × Nat) := do
  let files := (← get).world.files
  let from? ← locationOf source
  match ← entryOf source with
  | .ok entry =>
    if entry = .directory && !transfer.deep then
      return (past, ← transfer.refuse ("-r not specified; omitting directory ".toList ++
        quoted source))
    if entry ≠ .directory && from?.any past.sources.contains && transfer.backup = .none then
      report transfer.name <| "warning: source file ".toList ++ quoted source ++
        " specified more than once".toList
      return (past, 0)
  | .error _ => pure ()
  let (past, status) ← transfer.copyBelow source target (files.entries.length + 2)
    { past with made := none, intoItself := false } source target
  let to? ← locationOf target
  return (⟨to?.toList ++ past.targets, from?.toList ++ past.sources, none, false⟩, status)

/-! ## Moving -/

/-- Whether a path is within the directory that another one leads to. -/
def isInside (files : FileSystem) (source target : Octets) : Bool :=
  match files.locate (Octets.toText source), files.resolve (Octets.toText target) with
  | .ok (location, FileEntry.directory), .ok (.name parent _) =>
    FileSystem.isWithin location parent
  | _, _ => false

/-- Moves what a word leads to. -/
def move (transfer : Transfer) (past : Transferred) (source target : Octets) :
    ShellM (Transferred × Nat) := do
  match ← entryOf source with
  | .error fault =>
    return (past, ← reportFault transfer.name ("cannot stat ".toList ++ quoted source) fault 1)
  | .ok entry =>
    let there ← entryOf target
    match ← transfer.obstacle past source target entry there with
    | some status => return (past, status)
    | none =>
      let kept ← transfer.setAside target there
      let session ← get
      match session.world.rename (Octets.toText source) (Octets.toText target) with
      | .ok world =>
        set { session with world }
        transfer.say "renamed " source target kept
        let to? ← locationOf target
        return ({ past with targets := to?.toList ++ past.targets }, 0)
      | .error fault =>
        if fault = .invalid && isInside session.world.files source target then
          return (past, ← transfer.refuse ("cannot move ".toList ++ quoted source ++
            " to a subdirectory of itself, ".toList ++ quoted target))
        else
          let about :=
            if [.notEmpty, .isDirectory, .alreadyThere].contains fault then
              "cannot overwrite ".toList ++ quoted target
            else "cannot move ".toList ++ quoted source ++ " to ".toList ++ quoted target
          return (past, ← reportFault transfer.name about fault 1)

/-- Copies or moves what words lead to, each to the path that `place` gives. -/
def each (transfer : Transfer) (place : Octets → Octets) :
    Transferred → List Octets → ShellM Nat
  | _, [] => return 0
  | past, source :: rest => do
    let (past, status) ← if transfer.moves then transfer.move past source (place source)
      else transfer.copy past source (place source)
    return max status (← each transfer place past rest)

end Transfer

/-! ## Places -/

/-- The path that a file has in a directory. -/
def placeIn (target source : Octets) : Octets :=
  let last := lastName source
  pathIn target (if last = ['.', '.'] then [] else last)

/-- Makes the directories in a directory that a path leads through. -/
def copyParents (transfer : Transfer) (target source : Octets) : ShellM Unit := do
  for above in pathsAbove source do
    let path := pathIn target (above.dropWhile (· = '/'))
    let status ← if (← entryOf path).isOk then pure 1
      else
        changeFiles transfer.name ("cannot make directory ".toList ++ quoted path)
          (·.makeDirectory (Octets.toText path))
    if status = 0 && transfer.tells then
      print (above ++ " -> ".toList ++ path ++ ['\n'])

/-- Copies or moves files into a directory. -/
def transferInto (transfer : Transfer) (given : Given) (sources : List Octets) (target : Octets) :
    ShellM Nat := do
  if given.has '/' then
    for source in sources do copyParents transfer target source
    transfer.each (fun source => pathIn target (source.dropWhile (· = '/'))) .nothing sources
  else transfer.each (placeIn target) .nothing sources

/-- Copies or moves files to where the words and the options of a tool say. -/
def transferTo (transfer : Transfer) (given : Given) : ShellM Nat := do
  let name := transfer.name
  let words := if given.has '|' then given.arguments.map withoutSlashes else given.arguments
  let files := (← get).world.files
  if 1 < (given.argumentsOf 't').length then
    report name "multiple target directories specified".toList
    return 1
  match given.argument? 't', words with
  | _, [] => misuse name "missing file operand".toList 1
  | none, [target] =>
    misuse name ("missing destination file operand after ".toList ++ quoted target) 1
  | some target, sources =>
    if given.has 'T' then
      report name <| "cannot combine --target-directory (-t) ".toList ++
        "and --no-target-directory (-T)".toList
      return 1
    else
      match files.find (Octets.toText target) with
      | .ok .directory => transferInto transfer given sources target
      | .ok _ => reportFault name ("target directory ".toList ++ quoted target) .notDirectory 1
      | .error fault => reportFault name ("target directory ".toList ++ quoted target) fault 1
  | none, first :: second :: rest =>
    let target := (second :: rest).getLast?.getD []
    let sources := first :: (second :: rest).dropLast
    let inside := files.find (Octets.toText target)
    if given.has 'T' then
      match rest with
      | extra :: _ => extraOperand name extra
      | [] => transfer.each (fun _ => target) .nothing sources
    else
      match inside with
      | .ok .directory => transferInto transfer given sources target
      | inside =>
        if !rest.isEmpty then
          let fault := match inside with
            | .ok _ => .notDirectory
            | .error fault => fault
          reportFault name ("target ".toList ++ quoted target) fault 1
        else if given.has '/' then
          misuse name "with --parents, the destination must be a directory".toList 1
        else transfer.each (fun _ => target) .nothing sources

/-! ## Options -/

/-- How files are kept by their names. -/
def backupWords : List (List String) :=
  [["none", "off"], ["simple", "never"], ["existing", "nil"], ["numbered", "t"]]

/-- When files are overwritten by older ones. -/
def updateWords : List (List String) := [["all"], ["none"], ["older"]]

/-- How files are kept that are in the way, or the status if that is not understood. -/
def backupOf (name : Octets) (given : Given) : ShellM (Option Backup) := do
  let keeps := given.has 'b' || given.has '?' || given.has 'S'
  let named := given.options.filterMap fun (option, value) => if option = '?' then value else none
  match named.getLast? with
  | some word =>
    return (← choice? name "backup type".toList backupWords word).map fun word =>
      if ["none", "off"].contains word then .none
      else if ["simple", "never"].contains word then .simple
      else if ["numbered", "t"].contains word then .numbered
      else .existing
  | none => return some (if keeps then .existing else .none)

/-- Copies or moves files as the options say. -/
def transferAs (name : Octets) (moves : Bool) (given : Given) : ShellM Nat := do
  let deep := given.has 'r' || given.has 'R' || given.has 'a'
  let last := given.options.reverse.find? fun (option, _) => ['f', 'i', 'n'].contains option
  let overwriting := match last.map Prod.fst with
    | some 'n' => .never
    | some 'i' => .asked
    | _ => .always
  match ← backupOf name given with
  | none => return 1
  | some backup =>
    let last := given.options.reverse.find? fun (option, _) => option = 'u' || option = '^'
    let update ← match last with
      | some (_, some word) => choice? name "--update".toList updateWords word
      | some (_, none) => pure (some "older")
      | none => pure (some "all")
    match update with
    | none => return 1
    | some update =>
      transferTo {
        name, moves, deep, preserves := ['p', 'a', '+'].any given.has
        overwriting := if update = "none" then .never else overwriting
        updates := update = "older", backup, ending := (given.argument? 'S').getD ['~']
        hollow := given.has '0', tells := given.has 'v', links := given.has 'l'
        forced := given.has 'f' || given.has '@' } given

/-- How files are copied. -/
def cpUsage : Usage where
  plain := "abdfHilLnprsuvxPRTZ".toList
  valued := ['S', 't', '=']
  loose := ['?', '!', '^', '+']
  long := [("archive", 'a'), ("attributes-only", '0'), ("backup", '?'), ("copy-contents", '@'),
    ("debug", 'v'), ("dereference", 'L'), ("force", 'f'), ("interactive", 'i'), ("link", 'l'),
    ("no-clobber", 'n'), ("no-dereference", 'P'), ("no-preserve", '='),
    ("no-target-directory", 'T'), ("one-file-system", 'x'), ("parents", '/'), ("path", '/'),
    ("preserve", '+'), ("recursive", 'r'), ("reflink", '!'), ("remove-destination", '@'),
    ("sparse", '='), ("strip-trailing-slashes", '|'), ("suffix", 'S'), ("symbolic-link", 's'),
    ("target-directory", 't'), ("update", '^'), ("verbose", 'v'), ("context", '!')]

/-- **Copies files**, and directories with everything in them if that is asked for. -/
def cp : Tool := fun words => cpUsage.run words fun name given => transferAs name false given

/-- How files are moved. -/
def mvUsage : Usage where
  plain := "bfinuvTZ".toList
  valued := ['S', 't']
  loose := ['?', '^']
  long := [("backup", '?'), ("context", 'Z'), ("debug", 'v'), ("force", 'f'),
    ("interactive", 'i'), ("no-clobber", 'n'), ("no-target-directory", 'T'),
    ("strip-trailing-slashes", '|'), ("suffix", 'S'), ("target-directory", 't'),
    ("update", '^'), ("verbose", 'v')]

/-- **Moves files** and directories. -/
def mv : Tool := fun words => mvUsage.run words fun name given => transferAs name true given

end Tool

end Shell

end CallForest
