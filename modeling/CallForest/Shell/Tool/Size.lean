import CallForest.Shell.Tool.Copy

/-! # Tools that measure

* `Shell.Tool.sizes`: the sizes of a text.
* `Shell.Tool.wc`: prints the sizes of files. -/

namespace CallForest

namespace Shell

namespace Tool

/-! ## Texts -/

/-- The number of words of a text. Characters that cannot be seen are no part of a word. -/
def wordCount (text : Octets) : Nat :=
  (text.foldl (fun (count, inside) character =>
    if isSpace character then (count, false)
    else if isShown character && !inside then (count + 1, true)
    else (count, inside)) ((0, false) : Nat × Bool)).1

/-- The width of the widest line of a text. A tab leads to the next place that is a multiple of
eight. -/
def greatestWidth (text : Octets) : Nat :=
  let (greatest, last) := text.foldl (fun (greatest, width) character =>
    if character = '\n' || character = '\r' || character = '\x0c' then (max greatest width, 0)
    else if character = '\t' then (greatest, width + (8 - width % 8))
    else (greatest, if isShown character then width + 1 else width)) ((0, 0) : Nat × Nat)
  max greatest last

/-- Whether any size is asked for. -/
def asksForSize (given : Given) : Bool := ['l', 'w', 'm', 'c', 'L'].any given.has

/-- The **sizes of a text** that are asked for: lines, words, characters, bytes and the width. -/
def sizes (given : Given) (text : Octets) : List Nat :=
  let asked := fun (option : Char) (size : Nat) => if given.has option then [size] else []
  let lines := text.count '\n'
  if !asksForSize given then [lines, wordCount text, text.length]
  else
    asked 'l' lines ++ asked 'w' (wordCount text) ++ asked 'm' text.length ++
      asked 'c' text.length ++ asked 'L' (greatestWidth text)

/-- The sums of some rows of sizes. Of widths it is the greatest one. -/
def totals (given : Given) (rows : List (List Nat)) : List Nat :=
  let zero := (sizes given []).map fun _ => 0
  let sums := rows.foldl (List.zipWith (· + ·)) zero
  if given.has 'L' then
    sums.dropLast ++ [rows.foldl (fun greatest row => max greatest (row.getLastD 0)) 0]
  else sums

/-! ## Rows -/

/-- A row of sizes, each as wide as given. -/
def sizeRow (width : Nat) (row : List Nat) (name : Octets) : Octets :=
  let shown := row.map fun size =>
    let digits := Octets.ofNat size
    List.replicate (width - digits.length) ' ' ++ digits
  [' '].intercalate shown ++ (if name.isEmpty then [] else ' ' :: name) ++ ['\n']

/-- Measures files and prints their rows, unless that is not asked for, and gives the status and the
rows. -/
def measureEach (name : Octets) (given : Given) (width : Nat) (shows : Bool) :
    List Octets → ShellM (Nat × List (List Nat))
  | [] => return (0, [])
  | path :: rest => do
    let (status, rows) ← if path.isEmpty then
        report name "invalid zero-length file name".toList
        pure (1, [])
      else
        match ← contentOf path with
        | .ok text => pure (0, [sizes given text])
        | .error fault =>
          let about :=
            if given.arguments.isEmpty then quoted "standard input".toList else quotedIfNeeded path
          let status ← reportFault name about fault 1
          pure (status, if fault = .isDirectory || path = ['-'] then [sizes given []] else [])
    if shows then
      for row in rows do
        print (sizeRow width row (if given.arguments.isEmpty then [] else path))
    let (statuses, others) ← measureEach name given width shows rest
    return (max status statuses, rows ++ others)

/-- The size of a file if it can be known before the file is read, and zero of one that is missing.
-/
def knownSize (path : Octets) : ShellM (Option Nat) := do
  let session ← get
  if path = ['-'] then
    match session.descriptors.lookup 0 with
    | none => return some 0
    | some number =>
      match session.world.openings.lookup number with
      | some (.file location ..) => return some (session.world.content location).length
      | _ => return none
  else
    match session.world.files.find (Octets.toText path) with
    | .ok (.file content _) => return some content.length
    | .ok _ => return none
    | .error _ => return some 0

/-- How wide the sizes of files are written: as wide as the greatest sum there can be, if that is
known beforehand. -/
def sizeWidth (known : List (Option Nat)) : Nat :=
  let total := known.foldl (fun total size => total + size.getD 0) 0
  let width := (Octets.ofNat total).length
  if known.contains none then max 7 width else width

/-- How files are measured. -/
def wcUsage : Usage where
  plain := "clmwL".toList
  valued := ['!', '@']
  long := [("bytes", 'c'), ("chars", 'm'), ("files0-from", '@'), ("lines", 'l'), ("words", 'w'),
    ("max-line-length", 'L'), ("total", '!')]

/-- The option whose argument says when sums are printed. -/
def totalWords : List WordOption :=
  [⟨'!', "--total", [["auto"], ["always"], ["only"], ["never"]]⟩]

/-- Prints the sizes of some files, and their sums if a word asks for that. -/
def measureAll (name : Octets) (given : Given) (when? : Option String) (listed : Bool)
    (paths : List Octets) : ShellM Nat := do
  let known ← paths.mapM knownSize
  let only := when? = some "only"
  let single := paths.length = 1 && (sizes given []).length = 1
  let width := if only || single || listed then 1 else sizeWidth known
  let (status, rows) ← measureEach name given width (!only) paths
  let summed := match when? with
    | some "always" | some "only" => true
    | some "never" => false
    | _ => 1 < paths.length
  if summed then print (sizeRow width (totals given rows) (if only then [] else "total".toList))
  closeInput name paths status

/-- Prints the **sizes of files**. -/
def wc : Tool := fun words =>
  wcUsage.run words fun name given => do
    match ← chosenWords name totalWords [] given.options, given.argument? '@', given.arguments with
    | none, _, _ => return 1
    | some chosen, none, _ => measureAll name given (chosen.lookup '!') false (inputs given)
    | some _, some _, extra :: _ =>
      report name ("extra operand ".toList ++ quoted extra)
      warn "file operands cannot be combined with --files0-from\n".toList
      adviseHelp name
      return 1
    | some chosen, some path, [] =>
      match ← contentOf path with
      | .error fault =>
        reportFault name ("cannot open ".toList ++ quoted path ++ " for reading".toList) fault 1
      | .ok text =>
        let paths := (linesEnding '\x00' text).map fun line => line.filter (· ≠ '\x00')
        measureAll name { given with arguments := paths } (chosen.lookup '!') (path = ['-']) paths

end Tool

end Shell

end CallForest
