import CallForest.Shell.Pattern
import CallForest.Shell.Tool.Copy
import CallForest.Shell.Tool.Mode
import CallForest.Shell.Tool.Order

/-! # Tools that list directories

The names in a directory are put in order, are shown with what is told of them, and are set out in
rows or columns.

* `Shell.Tool.ListStyle`: how names are listed.
* `Shell.Tool.ls`: lists directories and files. -/

namespace CallForest

namespace Shell

namespace Tool

/-! ## Styles -/

/-- The order of names. -/
inductive ListOrder where
  /-- By their characters. -/
  | name
  /-- The order in which they are found. -/
  | found
  /-- The greatest files first. -/
  | size
  /-- The newest files first. -/
  | time
  /-- By their endings. -/
  | ending
  /-- As names of versions. -/
  | version
  /-- The shortest names first. -/
  | width

/-- How names are set out. -/
inductive ListForm where
  /-- Each on a line. -/
  | lines
  /-- Each on a line, with all that is told of a file. -/
  | long
  /-- In columns, one column after the other. -/
  | columns
  /-- In columns, one row after the other. -/
  | across
  /-- One behind the other, with commas. -/
  | commas

/-- How a name is spelt. -/
inductive NameStyle where
  /-- As it is. -/
  | plain
  /-- With a question mark for each character that does not show. -/
  | masked
  /-- With backslashes. -/
  | spelt
  /-- With backslashes, between quotes. -/
  | doubled
  /-- As a word of a shell. -/
  | word
  /-- As a word of a shell between quotes. -/
  | quoted

/-- How names are **listed**. -/
structure ListStyle where
  /-- The options. -/
  given : Given
  /-- Their order. -/
  order : ListOrder
  /-- Whether the order is turned around. -/
  reversed : Bool
  /-- How they are set out. -/
  form : ListForm
  /-- How they are spelt. -/
  spelling : NameStyle
  /-- The marks behind the names of directories and of programs. -/
  marks : Octets × Octets
  /-- How wide lines are. -/
  width : Nat
  /-- How far apart places of tabs are. -/
  tab : Nat
  /-- The patterns of names that are passed over. -/
  passed : List Pattern

/-- A name that is listed. -/
structure ListEntry where
  /-- The name. -/
  name : Octets
  /-- What it leads to. -/
  entry : FileEntry
  /-- The size of the file. -/
  size : Nat
  /-- How many names lead to it. -/
  links : Nat
  /-- How many entries were there before it was. -/
  age : Nat

/-! ## Entries -/

/-- The size of a directory. -/
def directorySize : Nat := 4096

/-- An entry under a name. -/
def ListEntry.of (files : FileSystem) (name path : Octets) : Option ListEntry :=
  match files.locate (Octets.toText path) with
  | .error _ => none
  | .ok (location, entry) =>
    let inner := files.newestChildren location
    let isDirectory := fun (name : String) => files.entry? (name :: location) = some .directory
    let size := match entry with
      | .directory => directorySize
      | .file content _ => content.length
      | .sink | .program _ => 0
    some {
      name, entry, size
      links := if entry = .directory then (inner.filter isDirectory).length + 2 else 1
      age := files.entries.findIdx (·.1 = location) }

namespace ListStyle

/-- Whether a name is listed that is found in a directory. -/
def shows (style : ListStyle) (name : Octets) : Bool :=
  let hidden := name.head? = some '.'
  (!hidden || style.given.has 'a' || style.given.has 'A' || style.given.has 'f') &&
    !(style.given.has 'B' && name.getLast? = some '~') &&
    !style.passed.any fun pattern =>
      pattern.accepts name && !(hidden && (pattern.head?.any fun place =>
        match place with
        | .octet '.' => false
        | _ => true))

/-- The entries of a directory that are listed, in the order in which they are found. -/
def entriesIn (style : ListStyle) (files : FileSystem) (path : Octets) : List ListEntry :=
  let location := ((files.directoryAt (Octets.toText path)).toOption).getD []
  let own := if style.given.has 'a' || style.given.has 'f' then [['.'], ['.', '.']] else []
  let names := own ++ ((files.newestChildren location).map Octets.ofText).filter style.shows
  names.filterMap fun name => ListEntry.of files name (pathIn path name)

/-- The ending of a name. -/
def endingOf (name : Octets) : Octets :=
  if name.contains '.' then '.' :: (name.reverse.takeWhile (· ≠ '.')).reverse else []

/-- The order of two entries. -/
def compare (style : ListStyle) (left right : ListEntry) : Ordering :=
  let byName := Order.compareOctets left.name right.name
  let order := match style.order with
    | .name | .found => byName
    | .size => (compareOfLessAndEq right.size left.size).then byName
    | .time => (compareOfLessAndEq right.age left.age).then byName
    | .ending => (Order.compareOctets (endingOf left.name) (endingOf right.name)).then byName
    | .version => (Order.compareVersions left.name right.name).then byName
    | .width => (compareOfLessAndEq left.name.length right.name.length).then byName
  if style.reversed then order.swap else order

/-- Entries in their order. -/
def sorted (style : ListStyle) (entries : List ListEntry) : List ListEntry :=
  let entries := match style.order with
    | .found => entries
    | _ => entries.mergeSort fun left right => style.compare left right ≠ .gt
  if style.given.has '>' then
    let (directories, others) := entries.partition (·.entry = .directory)
    directories ++ others
  else entries

/-! ## Names -/

/-- A character with a backslash, if it needs one. -/
def backslashed (character : Char) : Octets :=
  if character = '\\' then ['\\', '\\'] else if isShown character then [character]
  else Shell.spelling character

/-- A name as it is shown. -/
def shownName (style : ListStyle) (name : Octets) : Octets :=
  match style.spelling with
  | .plain => name
  | .masked => name.map fun character => if isShown character then character else '?'
  | .spelt => name.flatMap fun character =>
    if character = ' ' then ['\\', ' '] else backslashed character
  | .doubled => '"' :: (name.flatMap fun character =>
    if character = '"' then ['\\', '"'] else backslashed character) ++ ['"']
  | .word => quotedIfNeeded name
  | .quoted => Shell.quoted name

/-- The mark behind a name. -/
def mark (style : ListStyle) : FileEntry → Octets
  | .directory => style.marks.1
  | .file _ true | .program _ => style.marks.2
  | _ => []

/-- How many blocks of the disk something takes. -/
def blocks (entry : ListEntry) : Nat := (entry.size + 4095) / 4096 * 4

/-- What is in front of names and behind them, apart from all that is told of files. -/
def shownEntry (style : ListStyle) (entries : List ListEntry) (entry : ListEntry) : Octets :=
  let counts := entries.map fun entry => (Octets.ofNat (blocks entry)).length
  let front :=
    if style.given.has 's' then
      let count := Octets.ofNat (blocks entry)
      List.replicate ((counts.max?.getD 0) - count.length) ' ' ++ count ++ [' ']
    else []
  front ++ style.shownName entry.name ++ style.mark entry.entry

/-- All that is told of a file, behind the fields of others above it. -/
def longLine (style : ListStyle) (entries : List ListEntry) (entry : ListEntry) : Octets :=
  let right := fun (value : ListEntry → Nat) =>
    let width := ((entries.map fun entry => (Octets.ofNat (value entry)).length).max?).getD 0
    let text := Octets.ofNat (value entry)
    List.replicate (width - text.length) ' ' ++ text
  let kind := match entry.entry with
    | .directory => 'd'
    | .sink => 'c'
    | _ => '-'
  let owner := if style.given.has 'g' then []
    else [if style.given.has 'n' then ['0'] else "root".toList]
  let group := if style.given.has 'o' || style.given.has 'G' then []
    else [if style.given.has 'n' then ['0'] else "root".toList]
  let fields := [kind :: modeLetters (modeOf entry.entry), right (·.links)] ++ owner ++ group ++
    [right (·.size), "Jan  1 00:00".toList, style.shownEntry entries entry]
  [' '].intercalate fields

/-! ## Setting names out -/

/-- What is between two places of a line. -/
def indent (tab : Nat) : Nat → Nat → Nat → Octets
  | 0, _, _ => []
  | fuel + 1, start, goal =>
    if goal ≤ start then []
    else if 0 < tab && (start + 1) / tab < goal / tab then
      '\t' :: indent tab fuel (start + (tab - start % tab)) goal
    else ' ' :: indent tab fuel (start + 1) goal

/-- Cells of a row, each as wide as its column. -/
def rowText (tab : Nat) (widths : List Nat) : Nat → List Octets → Octets
  | _, [] => []
  | _, [cell] => cell
  | place, cell :: rest =>
    let next := place + widths.headD 0
    cell ++ indent tab (next + 1) (place + cell.length) next ++ rowText tab widths.tail next rest

/-- The widths of columns, if so many fit. -/
def columnWidths? (width : Nat) (byColumns : Bool) (count : Nat) (cells : List Octets) :
    Option (List Nat) :=
  let rows := (cells.length + count - 1) / count
  let column := fun (place : Nat) => if byColumns then place / rows else place % count
  let widths := (List.range count).map fun (number : Nat) =>
    cells.zipIdx.foldl (fun widest (cell, place) =>
      if column place = number then
        max widest (cell.length + if number + 1 = count then 0 else 2)
      else widest) 3
  if widths.foldl (· + ·) 0 < width || count = 1 then some widths else none

/-- Cells in as many columns as fit. -/
def tableText (width tab : Nat) (byColumns : Bool) (cells : List Octets) : Octets :=
  let most := max 1 (min cells.length ((width + 2) / 3))
  let widths := ((List.range most).reverse.findSome? fun less =>
    columnWidths? width byColumns (less + 1) cells).getD []
  let columns := max 1 widths.length
  let rows := (cells.length + columns - 1) / columns
  (List.range rows).flatMap fun row =>
    let inRow := cells.zipIdx.filter fun (_, place) =>
      if byColumns then place % rows = row else place / columns = row
    rowText tab widths 0 (inRow.map Prod.fst) ++ ['\n']

/-- Cells one behind the other, from a place of a line on, each behind a separator. -/
def runText (width : Nat) (separator : Octets) : Nat → List Octets → Octets
  | _, [] => []
  | place, cell :: rest =>
    let fits := width = 0 || place + cell.length + 2 < width
    separator ++ (if fits then [' '] else ['\n']) ++ cell ++
      runText width separator ((if fits then place + 2 else 0) + cell.length) rest

/-- Entries as they are set out. -/
def setOut (style : ListStyle) (entries : List ListEntry) : Octets :=
  let ending := if style.given.has '0' then '\x00' else '\n'
  let cells := entries.map (style.shownEntry entries)
  match style.form, cells with
  | _, [] => []
  | .long, _ => entries.flatMap fun entry => style.longLine entries entry ++ [ending]
  | .lines, cells => cells.flatMap (· ++ [ending])
  | .commas, first :: rest => first ++ runText style.width [','] first.length rest ++ ['\n']
  | .columns, first :: rest =>
    if style.width = 0 then first ++ runText 0 [' '] 0 rest ++ ['\n']
    else tableText style.width style.tab true cells
  | .across, first :: rest =>
    if style.width = 0 then first ++ runText 0 [' '] 0 rest ++ ['\n']
    else tableText style.width style.tab false cells

/-! ## Directories -/

/-- A directory as it is listed, with those below it if that is asked for, at most `fuel` of them
deep. Empty lines stand in front of its title if it is not the first. -/
def directoryText (style : ListStyle) (files : FileSystem) (titled : Bool) :
    Nat → Bool → Octets → Octets
  | 0, _, _ => []
  | fuel + 1, isFirst, path =>
    let entries := style.sorted (style.entriesIn files path)
    let deep := style.given.has 'R'
    let title := if titled || deep then
        (if isFirst then [] else ['\n']) ++ style.shownName path ++ ":\n".toList
      else []
    let total := match style.form, style.given.has 's' with
      | .long, _ | _, true => "total ".toList ++ Octets.ofNat ((entries.map blocks).sum) ++ ['\n']
      | _, _ => []
    let inner := entries.filter fun entry =>
      entry.entry = .directory && !([['.'], ['.', '.']].contains entry.name)
    let below := if deep then
        inner.flatMap fun entry =>
          directoryText style files titled fuel false (pathIn path entry.name)
      else []
    title ++ total ++ style.setOut entries ++ below

/-- What is listed of some paths. -/
def text (style : ListStyle) (files : FileSystem) (paths : List Octets) : Octets :=
  let entries := style.sorted (paths.filterMap fun path => ListEntry.of files path path)
  let isListed := fun (entry : ListEntry) => entry.entry = .directory && !style.given.has 'd'
  let single := entries.filter (!isListed ·)
  let directories := entries.filter isListed
  let shown := directories.zipIdx.flatMap fun (entry, place) =>
    style.directoryText files (1 < paths.length) (files.entries.length + 1)
      (place = 0 && single.isEmpty) entry.name
  style.setOut single ++ shown

end ListStyle

/-! ## Options -/

/-- How names are listed. -/
def lsUsage : Usage where
  plain := "abcdfghiklmnopqrstuvxABCDFGHLNQRSUXZ1".toList
  valued := "wIT!@#$%=".toList
  loose := ['?', '^']
  long := [("all", 'a'), ("almost-all", 'A'), ("author", 'y'), ("block-size", '!'),
    ("classify", '?'), ("color", '^'), ("context", 'Z'), ("directory", 'd'), ("dired", 'D'),
    ("escape", 'b'), ("file-type", 'p'), ("format", '@'), ("full-time", 'l'),
    ("group-directories-first", '>'), ("hide", '#'), ("hide-control-chars", 'q'),
    ("human-readable", 'h'), ("hyperlink", '^'), ("ignore", 'I'), ("ignore-backups", 'B'),
    ("indicator-style", '$'), ("inode", 'i'), ("literal", 'N'), ("no-group", 'G'),
    ("numeric-uid-gid", 'n'), ("quote-name", 'Q'), ("quoting-style", '%'), ("recursive", 'R'),
    ("reverse", 'r'), ("show-control-chars", ' '), ("size", 's'), ("sort", '='),
    ("tabsize", 'T'), ("time", '!'), ("time-style", '!'), ("width", 'w'), ("zero", '0')]
  status := 2

/-- What the last one of the options that are known stands for. -/
def lastOf {α : Type} (given : Given) (known : Char → Option α) : Option α :=
  given.options.reverse.findSome? fun (option, _) => known option

/-- How names are set out with some options. -/
def listForm (given : Given) (word : Option String) : ListForm :=
  let named := match word with
    | some "long" | some "verbose" => some ListForm.long
    | some "commas" => some .commas
    | some "horizontal" | some "across" => some .across
    | some "vertical" => some .columns
    | some _ => some .lines
    | none => none
  let last := lastOf given fun option =>
    match option with
    | 'l' | 'g' | 'n' | 'o' => some ListForm.long
    | 'C' => some .columns
    | 'x' => some .across
    | 'm' => some .commas
    | '1' | '0' => some .lines
    | '@' => named
    | _ => none
  let isLong := given.options.any fun (option, _) => ['l', 'g', 'n', 'o'].contains option
  match last with
  | some .lines => if isLong && !given.has '0' then .long else .lines
  | form => form.getD .lines

/-- The order of names with some options. -/
def listOrder (given : Given) (word : Option String) : ListOrder :=
  let named := match word with
    | some "none" => ListOrder.found
    | some "size" => .size
    | some "time" => .time
    | some "version" => .version
    | some "extension" => .ending
    | some "width" => .width
    | _ => .name
  (lastOf given fun option =>
    match option with
    | 'U' | 'f' => some ListOrder.found
    | 'S' => some .size
    | 't' => some .time
    | 'X' => some .ending
    | 'v' => some .version
    | '=' => some named
    | _ => none).getD .name

/-- How names are spelt with some options. -/
def nameStyle (given : Given) (word : Option String) : NameStyle :=
  let named := match word with
    | some "c" | some "c-maybe" | some "clocale" => NameStyle.doubled
    | some "escape" => .spelt
    | some "shell" | some "shell-escape" => .word
    | some "literal" => .plain
    | _ => .quoted
  (lastOf given fun option =>
    match option with
    | 'b' => some NameStyle.spelt
    | 'Q' => some .doubled
    | 'N' => some .plain
    | 'q' => some .masked
    | '%' => some named
    | _ => none).getD .plain

/-- The marks behind names with some options. -/
def listMarks (given : Given) (word : Option String) : Octets × Octets :=
  (lastOf given fun option =>
    match option with
    | 'F' => some (['/'], ['*'])
    | '?' =>
      if [none, some "always", some "yes", some "force"].contains ((given.argument? '?').map
        String.ofList) then some (['/'], ['*']) else some ([], [])
    | 'p' => some (['/'], [])
    | '$' => some (match word with
      | some "classify" => (['/'], ['*'])
      | some "none" => ([], [])
      | _ => (['/'], []))
    | _ => none).getD ([], [])

/-- The options whose arguments are words. -/
def listWords : List WordOption := [
  ⟨'@', "--format", [["verbose", "long"], ["commas"], ["horizontal", "across"], ["vertical"],
    ["single-column"]]⟩,
  ⟨'=', "--sort", [["none"], ["time"], ["size"], ["extension"], ["version"], ["width"]]⟩,
  ⟨'$', "--indicator-style", [["none"], ["slash"], ["file-type"], ["classify"]]⟩,
  ⟨'%', "--quoting-style", [["literal"], ["shell"], ["shell-always"], ["shell-escape"],
    ["shell-escape-always"], ["c"], ["c-maybe"], ["escape"], ["locale"], ["clocale"]]⟩]

/-- Lists what some paths lead to in a style, and gives the status. -/
def listPaths (name : Octets) (style : ListStyle) (paths : List Octets) : ShellM Nat := do
  let status ← greatestOf (fun path => do
    match ← entryOf path with
    | .error fault => reportFault name ("cannot access ".toList ++ quoted path) fault 2
    | .ok _ => return 0) paths
  print (style.text (← get).world.files paths)
  return status

/-- **Lists directories and files.** -/
def ls : Tool := fun words =>
  lsUsage.run words fun name given => do
    let number := fun (option : Char) (standard : Nat) =>
      (given.argument? option).elim (some standard) fun word =>
        if word.all Char.isDigit && !word.isEmpty then some (digitsValue 10 word) else none
    match number 'w' 80, number 'T' 8, ← chosenWords name listWords [] given.options with
    | none, _, _ =>
      report name ("invalid line width: ".toList ++ quoted ((given.argument? 'w').getD []))
      return 2
    | _, none, _ =>
      report name ("invalid tab size: ".toList ++ quoted ((given.argument? 'T').getD []))
      return 2
    | _, _, none => return 1
    | some width, some tab, some chosen =>
      let hidden := if given.has 'a' || given.has 'A' then [] else given.argumentsOf '#'
      let patterns := given.argumentsOf 'I' ++ hidden
      listPaths name {
        given, width, tab, order := listOrder given (chosen.lookup '=')
        reversed := given.has 'r', form := listForm given (chosen.lookup '@')
        spelling := nameStyle given (chosen.lookup '%')
        marks := listMarks given (chosen.lookup '$')
        passed := patterns.map fun pattern => Pattern.ofGlyphs (pattern.map (⟨·, true⟩)) }
        (if given.arguments.isEmpty then [['.']] else given.arguments)

end Tool

end Shell

end CallForest
