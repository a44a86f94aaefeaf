import CallForest.Shell.Tool.Make

/-! # Tools that take files and directories away

* `Shell.Tool.rm`: takes files away, and directories with everything in them.
* `Shell.Tool.rmdir`: takes empty directories away. -/

namespace CallForest

namespace Shell

namespace Tool

/-! ## Files -/

/-- How files are taken away. -/
structure Removal where
  /-- What the tool is called. -/
  name : Octets
  /-- Whether nothing is said of files that are not there. -/
  forced : Bool
  /-- Whether directories are taken away with everything in them. -/
  deep : Bool
  /-- Whether empty directories are taken away. -/
  empty : Bool
  /-- Whether it is asked for leave each time. -/
  asks : Bool
  /-- Whether it is said what is taken away. -/
  tells : Bool

namespace Removal

/-- What kind of thing an entry is. -/
def kind : FileEntry → String
  | .directory => "directory"
  | .file [] _ => "regular empty file"
  | .file _ _ | .program _ => "regular file"
  | .sink => "character special file"

/-- Whether there is leave to take an entry away. -/
def allowed (removal : Removal) (path : Octets) (entry : FileEntry) : ShellM Bool := do
  if removal.asks then
    confirms removal.name ("remove ".toList ++ (kind entry).toList ++ ' ' :: quoted path)
  else return true

/-- Takes an entry away, and says so if that is asked for. -/
def erase (removal : Removal) (path : Octets) (entry : FileEntry) : ShellM Nat := do
  let text := Octets.toText path
  let status ← changeWorld removal.name ("cannot remove ".toList ++ quoted path) fun world =>
    if entry = .directory then
      return { world with files := ← world.files.removeDirectory text }
    else world.remove text
  if status = 0 && removal.tells then
    let kind := if entry = .directory then "removed directory " else "removed "
    print (kind.toList ++ quoted path ++ ['\n'])
  return status

/-- Takes what a path leads to away, with everything in it, at most `fuel` directories deep. -/
def below (removal : Removal) : Nat → Octets → ShellM Nat
  | 0, _ => return 1
  | fuel + 1, path => do
    let files := (← get).world.files
    match ← entryOf path with
    | .error fault => reportFault removal.name ("cannot remove ".toList ++ quoted path) fault 1
    | .ok .directory =>
      let names := ((files.directoryAt (Octets.toText path)).toOption.elim [] files.newestChildren)
      if names.isEmpty then
        if ← removal.allowed path .directory then removal.erase path .directory else return 0
      else
        let enters ← if removal.asks then
            confirms removal.name ("descend into directory ".toList ++ quoted path)
          else pure true
        if !enters then return 0
        else
          let inside ← greatestOf
            (fun name => below removal fuel (pathIn path name)) (names.map Octets.ofText)
          if 0 < inside then return inside
          else if ← removal.allowed path .directory then removal.erase path .directory
          else return 0
    | .ok entry =>
      if ← removal.allowed path entry then removal.erase path entry else return 0

/-- Takes what a word leads to away. -/
def one (removal : Removal) (path : Octets) : ShellM Nat := do
  let files := (← get).world.files
  let about := "cannot remove ".toList ++ quoted path
  match ← entryOf path with
  | .error fault =>
    if removal.forced && (fault = .notFound || fault = .notDirectory) then return 0
    else reportFault removal.name about fault 1
  | .ok .directory =>
    let location := (files.directoryAt (Octets.toText path)).toOption.getD []
    let isEmpty := (files.newestChildren location).isEmpty
    if !removal.deep && !(removal.empty && isEmpty) then
      reportFault removal.name about (if removal.empty then .notEmpty else .isDirectory) 1
    else if [['.'], ['.', '.']].contains (lastName path) then
      report removal.name <| "refusing to remove '.' or '..' directory: skipping ".toList ++
        quoted path
      return 1
    else if location.isEmpty then
      report removal.name <| "it is dangerous to operate recursively on ".toList ++ quoted path ++
        if path = ['/'] then [] else " (same as '/')".toList
      report removal.name "use --no-preserve-root to override this failsafe".toList
      return 1
    else removal.below (files.entries.length + 1) path
  | .ok _ => removal.below (files.entries.length + 1) path

end Removal

/-- How files are taken away. -/
def rmUsage : Usage where
  plain := "dfirvIR".toList
  loose := ['?', '!']
  long := [("dir", 'd'), ("force", 'f'), ("interactive", '?'), ("no-preserve-root", 'P'),
    ("one-file-system", 'x'), ("preserve-root", '!'), ("recursive", 'r'), ("verbose", 'v')]

/-- When it is asked for leave. -/
def interactiveWords : List (List String) :=
  [["never", "no", "none"], ["once"], ["always", "yes"]]

/-- Takes files away as some options say, of which those that are spelt as words are letters. -/
def removeAs (name : Octets) (given : Given) : ShellM Nat := do
  let paths := given.arguments
  let last := given.options.reverse.find? fun (option, _) => ['f', 'i', 'I'].contains option
  let forced := last.any (·.1 = 'f')
  let deep := given.has 'r' || given.has 'R'
  let removal : Removal :=
    ⟨name, forced, deep, given.has 'd', last.any (·.1 = 'i'), given.has 'v'⟩
  let many := last.any (·.1 = 'I') && (3 < paths.length || deep)
  let count := Octets.ofNat paths.length ++
    (if paths.length = 1 then " argument" else " arguments").toList
  if paths.isEmpty then if forced then return 0 else lacksOperand name
  else
    let leave ← if many then
        confirms name ("remove ".toList ++ count ++ if deep then " recursively".toList else [])
      else pure true
    if leave then greatestOf removal.one paths else return 0

/-- **Takes files away**, and directories with everything in them if that is asked for. -/
def rm : Tool := fun words =>
  rmUsage.run words fun name given => do
    let mut options := []
    for (option, value) in given.options do
      match option, value with
      | '?', some word =>
        match ← choice? name "--interactive".toList interactiveWords word with
        | none => return 1
        | some "once" => options := ('I', none) :: options
        | some word =>
          let letter := if ["always", "yes"].contains word then 'i' else 'n'
          options := (letter, none) :: options.filter fun (option, _) =>
            !(['i', 'I'].contains option)
      | '?', none => options := ('i', none) :: options
      | _, _ => options := (option, none) :: options
    removeAs name { given with options := options.reverse }

/-! ## Empty directories -/

/-- How empty directories are taken away. -/
def rmdirUsage : Usage where
  plain := ['p', 'v']
  long := [("ignore-fail-on-non-empty", '!'), ("parents", 'p'), ("path", 'p'), ("verbose", 'v')]

/-- The paths of the directories above a path, the nearest one first. -/
def pathsUp (path : Octets) : List Octets :=
  let path := withoutSlashes path
  let ends := (List.range path.length).filter fun place =>
    path[place]? = some '/' && (path[place + 1]?).any (· ≠ '/')
  (ends.map fun place => withoutSlashes (path.take (place + 1))).reverse

/-- Takes empty directories away, one after the other up to one that is not empty. -/
def removeUp (name : Octets) (given : Given) (about : String) : List Octets → ShellM Nat
  | [] => return 0
  | path :: rest => do
    if given.has 'v' then print (name ++ ": removing directory, ".toList ++ quoted path ++ ['\n'])
    let session ← get
    match session.world.files.removeDirectory (Octets.toText path) with
    | .ok files =>
      set { session with world := { session.world with files } }
      removeUp name given "failed to remove directory " rest
    | .error fault =>
      if [.notEmpty, .busy].contains fault && given.has '!' then return 0
      else reportFault name (about.toList ++ quoted path) fault 1

/-- **Takes empty directories away.** -/
def rmdir : Tool := fun words =>
  rmdirUsage.run words fun name given => do
    if given.arguments.isEmpty then lacksOperand name
    else
      let remove := fun (path : Octets) =>
        removeUp name given "failed to remove " (path :: if given.has 'p' then pathsUp path else [])
      greatestOf remove given.arguments

end Tool

end Shell

end CallForest
