import CallForest.Shell.Regular.Reading
import CallForest.Shell.Tool.Copy

/-! # Tools that search

* `Shell.Tool.Query`: what is searched for.
* `Shell.Tool.SearchStyle`: how what is found is shown.
* `Shell.Tool.grep`: prints lines that an expression matches. -/

namespace CallForest

namespace Shell

namespace Tool

/-! ## Lines that match -/

/-- What is searched for. -/
structure Query where
  /-- The expressions, of which one must match. -/
  expressions : List Regular
  /-- Whether small and capital letters count as the same. -/
  folded : Bool
  /-- Whether only matches of whole lines count. -/
  wholeLine : Bool
  /-- Whether only matches of whole words count. -/
  wholeWord : Bool

/-- Whether a match of a line counts. -/
def Query.fits (query : Query) (here next : Regular.Reach) : Bool :=
  let alone :=
    !here.before.any Regular.isWordCharacter && !next.rest.head?.any Regular.isWordCharacter
  (!query.wholeLine || here.place = 0 && next.rest.isEmpty) && (!query.wholeWord || alone)

/-- The first of some places. -/
def firstFound : List Regular.Found → Option Regular.Found
  | [] => none
  | found :: rest =>
    match firstFound rest with
    | none => some found
    | some other =>
      let earlier := other.front.length < found.front.length ||
        other.front.length = found.front.length && found.piece.length < other.piece.length
      if earlier then some other else some found

/-- The first place in a line that counts, behind its front. -/
def Query.find (query : Query) (front rest : Octets) : Option Regular.Found :=
  firstFound <| query.expressions.filterMap fun expression =>
    expression.search query.folded query.fits front rest

/-- The pieces of a line that match with their places, at most `fuel` of them. -/
def Query.pieces (query : Query) : Nat → Octets → Octets → List (Nat × Octets)
  | 0, _, _ => []
  | fuel + 1, front, rest =>
    match query.find front rest with
    | none => []
    | some found =>
      if found.piece.isEmpty then
        match found.behind with
        | [] => []
        | next :: behind => Query.pieces query fuel (found.front ++ [next]) behind
      else
        (found.front.length, found.piece) ::
          Query.pieces query fuel (found.front ++ found.piece) found.behind

/-! ## How it is shown -/

/-- How what is found is shown. -/
structure SearchStyle where
  /-- Whether lines count that do not match. -/
  inverted : Bool
  /-- How many lines count at most. -/
  limit : Option Nat
  /-- How many lines are shown in front of one that counts, if any are asked for. -/
  before : Option Nat
  /-- How many lines are shown behind it, if any are asked for. -/
  after : Option Nat
  /-- What stands between lines that do not follow each other. -/
  gap : Option Octets
  /-- Whether only the pieces that match are shown. -/
  piecesOnly : Bool
  /-- Whether names of files are shown. -/
  named : Bool
  /-- Whether a name ends with a character of its own. -/
  cutsName : Bool
  /-- Whether numbers of lines are shown. -/
  numbered : Bool
  /-- Whether places in files are shown. -/
  placed : Bool
  /-- Whether what is in front of lines is as wide everywhere. -/
  aligned : Bool
  /-- The character that ends lines. -/
  ending : Char

/-- A line of a file. -/
structure SearchLine where
  /-- Its text. -/
  text : Octets
  /-- Its number. -/
  number : Nat
  /-- How many characters are in front of it. -/
  place : Nat

/-- The lines of a text. -/
def searchLines (ending : Char) (text : Octets) : List SearchLine :=
  ((linesEnding ending text).foldl (fun (lines, number, place) line =>
    let inside := if line.getLast? = some ending then line.dropLast else line
    (⟨inside, number, place⟩ :: lines, number + 1, place + line.length))
    (([], 1, 0) : List SearchLine × Nat × Nat)).1.reverse

namespace SearchStyle

/-- What stands in front of a line, or of a piece of it that begins at a place. -/
def label (style : SearchStyle) (name : Octets) (mark : Char) (line : SearchLine) (place : Nat) :
    Octets :=
  let wide := fun (number : Nat) =>
    let digits := Octets.ofNat number
    if style.aligned then List.replicate (19 - digits.length) ' ' ++ digits else digits
  let name :=
    if style.named then name ++ [if style.cutsName then '\x00' else mark] else []
  let number := if style.numbered then wide line.number ++ [mark] else []
  let offset := if style.placed then wide place ++ [mark] else []
  let label := name ++ number ++ offset
  label ++ if style.aligned && !label.isEmpty && !line.text.isEmpty then ['\t'] else []

/-- How a line is shown that counts, or that stands beside one. -/
def shown (style : SearchStyle) (query : Query) (name : Octets) (counts : Bool)
    (line : SearchLine) : Octets :=
  let mark := if counts then ':' else '-'
  if !style.piecesOnly then
    style.label name mark line line.place ++ line.text ++ [style.ending]
  else if !counts || style.inverted then []
  else
    (query.pieces (line.text.length + 1) [] line.text).flatMap fun (place, piece) =>
      style.label name mark line (line.place + place) ++ piece ++ [style.ending]

end SearchStyle

/-- How far a search of a file has come. -/
structure SearchState where
  /-- What is printed, the last piece first. -/
  printed : List Octets
  /-- The lines that may be shown in front of the next one that counts, the last one first. -/
  waiting : List SearchLine
  /-- How many lines are still shown behind the last one that counts. -/
  pending : Nat
  /-- How many lines have counted. -/
  count : Nat
  /-- Whether a line of the file has been shown. -/
  adjacent : Bool
  /-- Whether anything has been shown at all. -/
  used : Bool
  /-- How much of the file is read when as many lines have counted as can. -/
  reached : Option Nat

/-- The start of a file, behind others of which something has been shown if it is `used`. -/
def SearchState.start (used : Bool) : SearchState := ⟨[], [], 0, 0, false, used, none⟩

/-- Goes on with a line. -/
def SearchState.step (style : SearchStyle) (query : Query) (name : Octets) (state : SearchState)
    (line : SearchLine) : SearchState :=
  let open? := style.limit.all (state.count < ·)
  let shown := style.shown query name
  if open? && (query.find [] line.text).isSome != style.inverted then
    let front := state.waiting.take (style.before.getD 0)
    let contiguous := state.adjacent && front.length = state.waiting.length
    let divided := (style.before.isSome || style.after.isSome) && state.used && !contiguous
    let gap := if divided then style.gap.elim [] (· ++ ['\n']) else []
    let text := gap ++ front.reverse.flatMap (shown false) ++ shown true line
    let count := state.count + 1
    let ends := style.limit = some count
    { state with
      printed := text :: state.printed, waiting := [], pending := style.after.getD 0
      count, adjacent := true, used := true
      reached := if ends then some (line.place + line.text.length + 1) else none }
  else if 0 < state.pending then
    { state with printed := shown false line :: state.printed, pending := state.pending - 1 }
  else { state with waiting := line :: state.waiting }

/-! ## Files -/

/-- How a file that is searched is called. -/
def searchedName (given : Given) (path : Octets) : Octets :=
  if path = ['-'] then (given.argument? '!').getD "(standard input)".toList else path

/-- Whether a file is no text. -/
def isBinary (given : Given) (text : Octets) : Bool :=
  let kind := (given.argument? '&').map String.ofList
  !given.has 'a' && !given.has 'z' && kind ≠ some "text" && text.contains '\x00'

/-- Whether files that are no texts are passed over. -/
def skipsBinary (given : Given) : Bool :=
  given.has 'I' || (given.argument? '&').map String.ofList = some "without-match"

/-- Searches a file, behind others of which something has been shown if it is `used`. Says whether
any line counts, and whether anything has been shown. -/
def grepText (given : Given) (style : SearchStyle) (query : Query) (path : Octets) (used : Bool)
    (text : Octets) : ShellM (Bool × Bool) := do
  let name := searchedName given path
  let binary := isBinary given text
  let lines := if binary && skipsBinary given then [] else searchLines style.ending text
  let state := lines.foldl (SearchState.step style query name) (SearchState.start used)
  let any := 0 < state.count
  let ending := if style.cutsName then ['\x00'] else ['\n']
  let listed := given.options.reverse.find? fun (option, _) => option = 'l' || option = 'L'
  if given.has 'q' then return (any, used)
  match listed with
  | some (option, _) =>
    if any = decide (option = 'l') then print (name ++ ending)
    return (any, used)
  | none =>
    if given.has 'c' then
      let mark := if style.cutsName then '\x00' else ':'
      let label := if style.named then name ++ [mark] else []
      print (label ++ Octets.ofNat state.count ++ ['\n'])
      return (any, used)
    else if binary then
      if any then
        print ("grep: ".toList ++ name ++ ": binary file matches\n".toList)
      return (any, used)
    else
      print state.printed.reverse.flatten
      return (any, state.used)

/-- The rest of the input. If no more lines than a limit can count, what is behind them is left. -/
def searchedInput (style : SearchStyle) (query : Query) : ShellM (Except SystemFault Octets) :=
  takeInput 32768 fun text =>
    let state := (searchLines style.ending text).foldl (SearchState.step style query [])
      (SearchState.start false)
    state.reached.getD text.length

/-- The files in a directory and in those below it, those that are new first, at most `fuel` levels
of them. -/
def filesBelow (files : FileSystem) (passed : Octets → Bool) : Nat → Octets → List Octets
  | 0, _ => []
  | fuel + 1, path =>
    match files.directoryAt (Octets.toText path) with
    | .error _ => []
    | .ok location =>
      (files.newestChildren location).flatMap fun name =>
        let name := Octets.ofText name
        let inner := if path = ['.'] then name
          else if path.getLast? = some '/' then path ++ name
          else path ++ '/' :: name
        if files.isDirectory (Octets.toText inner) then
          if passed name then [] else filesBelow files passed fuel inner
        else [inner]

/-- Whether a name of a file fits one of some patterns. -/
def fitsAny (patterns : List Octets) (path : Octets) : Bool :=
  let name := (path.reverse.takeWhile (· ≠ '/')).reverse
  patterns.any fun pattern =>
    let glyphs := Pattern.ofGlyphs (pattern.map (⟨·, true⟩))
    glyphs.accepts name || glyphs.accepts path

/-- The options with one for each pattern in files of names that are passed over. -/
def withPassedNames (files : FileSystem) (given : Given) : Given :=
  let lines := (given.argumentsOf '*').flatMap fun path =>
    let text := (files.read (Octets.toText path)).toOption.elim [] Octets.ofBytes
    (linesOf text).map bare
  { given with options := given.options ++ lines.map fun line => ('#', some line) }

/-- Whether a file is searched, going by its name. -/
def isSearched (given : Given) (path : Octets) : Bool :=
  let included := given.argumentsOf '@'
  (included.isEmpty || fitsAny included path) && !fitsAny (given.argumentsOf '#') path

/-- What searching files has led to. -/
structure SearchResult where
  /-- Whether any line counts. -/
  any : Bool
  /-- Whether all files could be read. -/
  read : Bool
  /-- Whether anything has been shown. -/
  used : Bool

/-- Searches files one after the other. -/
def grepEach (name : Octets) (given : Given) (style : SearchStyle) (query : Query) :
    SearchResult → List Octets → ShellM SearchResult
  | result, [] => return result
  | result, path :: rest => do
    let files := (← get).world.files
    let skipsDirectory := (given.argument? 'd').map String.ofList = some "skip"
    if path ≠ ['-'] && !isSearched given path && (files.find (Octets.toText path)).isOk then
      grepEach name given style query result rest
    else if skipsDirectory && files.isDirectory (Octets.toText path) then
      grepEach name given style query result rest
    else if given.has 'q' && result.any then return result
    else
      let quiet := ['q', 'c', 'l', 'L'].any given.has || style.limit = some 1
      if !quiet && (← isOutputFile path) then
        if !given.has 's' then report name (path ++ ": input file is also the output".toList)
        return ← grepEach name given style query { result with read := false } rest
      let content ← if path = ['-'] then searchedInput style query else contentOf path
      match content with
      | .ok text =>
        let (any, used) ← grepText given style query path result.used text
        grepEach name given style query { result with any := result.any || any, used } rest
      | .error fault =>
        if !given.has 's' then
          report name (searchedName given path ++ ": ".toList ++ fault.text.toList)
        let result := { result with read := false }
        if fault = .isDirectory || path = ['-'] then
          let (any, used) ← grepText given style query path result.used []
          grepEach name given style query { result with any := result.any || any, used } rest
        else grepEach name given style query result rest

/-! ## Options -/

/-- How a search is asked for. -/
def grepUsage : Usage where
  plain := "EFGPivwxcLlqshHnboTZzaIrRUyu0123456789~^".toList
  valued := "efmABCdD!@#$%&*".toList
  loose := ['?']
  long := [("basic-regexp", 'G'), ("extended-regexp", 'E'), ("fixed-regexp", 'F'),
    ("fixed-strings", 'F'), ("perl-regexp", 'P'), ("after-context", 'A'), ("before-context", 'B'),
    ("binary-files", '&'), ("binary", 'U'), ("byte-offset", 'b'), ("context", 'C'),
    ("color", '?'), ("colour", '?'), ("count", 'c'), ("devices", 'D'), ("directories", 'd'),
    ("exclude", '#'), ("exclude-from", '*'), ("exclude-dir", '$'), ("file", 'f'),
    ("files-with-matches", 'l'), ("files-without-match", 'L'), ("group-separator", '%'),
    ("ignore-case", 'i'), ("no-ignore-case", '~'), ("include", '@'), ("initial-tab", 'T'),
    ("label", '!'), ("line-buffered", 'u'), ("line-number", 'n'), ("line-regexp", 'x'),
    ("max-count", 'm'), ("no-filename", 'h'), ("no-group-separator", '^'), ("no-messages", 's'),
    ("null", 'Z'), ("null-data", 'z'), ("only-matching", 'o'), ("quiet", 'q'),
    ("recursive", 'r'), ("dereference-recursive", 'R'), ("regexp", 'e'), ("invert-match", 'v'),
    ("silent", 'q'), ("text", 'a'), ("with-filename", 'H'), ("word-regexp", 'w')]
  status := 2

/-- Reports how a search is asked for. -/
def grepRefuse (name : Octets) : ShellM Nat := do
  warn ("Usage: ".toList ++ name ++ " [OPTION]... PATTERNS [FILE]...\n".toList)
  adviseHelp name
  return 2

/-- The number of lines that is meant by options that are digits, if there are any: those that stand
last and behind each other. -/
def digitContext? (given : Given) : Option Octets :=
  let groups := given.options.splitBy fun left right => left.1.isDigit == right.1.isDigit
  (groups.filter fun group => (group.head?.any (·.1.isDigit))).getLast?.map (·.map Prod.fst)

/-- The text of a file in which each line is a pattern, without the end of the last one. -/
def patternFile (path : Octets) : ShellM (Except SystemFault (List Octets)) := do
  match ← contentOf path with
  | .error fault => return .error fault
  | .ok text =>
    let lines := if text.getLast? = some '\n' then text.dropLast else text
    return .ok (if text.isEmpty then [] else lines.splitOn '\n')

/-- A text that is searched for. -/
structure SearchPattern where
  /-- The text. -/
  text : Octets
  /-- The file that it is from and its line there, if it is from one. -/
  origin : Option (Octets × Nat)

/-- Where a pattern is from, in front of what is said of it. -/
def SearchPattern.place (pattern : SearchPattern) : Octets :=
  pattern.origin.elim [] fun (path, line) => path ++ ':' :: Octets.ofNat line ++ ": ".toList

/-- The patterns that a word gives. -/
def givenText (text : Octets) : List SearchPattern := (text.splitOn '\n').map (⟨·, none⟩)

/-- The patterns that the lines of a file give. -/
def patternLines (path : Octets) (lines : List Octets) : List SearchPattern :=
  lines.zipIdx.map fun (line, index) => ⟨line, some (path, index + 1)⟩

/-- Patterns without those that are like one in front of them. -/
def distinctPatterns (patterns : List SearchPattern) : List SearchPattern :=
  let add := fun (kept : List SearchPattern) (pattern : SearchPattern) =>
    if kept.any (·.text = pattern.text) then kept else pattern :: kept
  (patterns.foldl add []).reverse

/-- The patterns that the options give, if they give any, or the status if a file of them cannot be
read. -/
def givenPatterns (name : Octets) :
    List (Char × Option Octets) → ShellM (Except Nat (Option (List SearchPattern)))
  | [] => return .ok none
  | (option, value) :: rest => do
    let patterns : Except Nat (Option (List SearchPattern)) ← match option, value with
      | 'e', some text => pure (.ok (some (givenText text)))
      | 'f', some path =>
        match ← patternFile path with
        | .ok lines => pure (.ok (some (patternLines path lines)))
        | .error fault => pure (.error (← reportFault name path fault 2))
      | _, _ => pure (.ok none)
    match patterns with
    | .error status => return .error status
    | .ok first =>
      match ← givenPatterns name rest with
      | .error status => return .error status
      | .ok others =>
        return .ok (if first.isNone && others.isNone then none
          else some (first.getD [] ++ others.getD []))

/-- Whether the last one of two options that is given is the first of them. -/
def prevails (given : Given) (option other : Char) : Bool :=
  let last := given.options.reverse.find? fun (letter, _) => letter = option || letter = other
  last.any (·.1 = option)

/-- The number that an option counts lines with, and none if it is negative. -/
def lineCount? (word : Octets) : Option (Option Nat) :=
  let word := word.dropWhile isSpace
  let digits := if ['+', '-'].contains (word.headD ' ') then word.tail else word
  if digits.isEmpty || !digits.all Char.isDigit then none
  else some (if word.head? = some '-' then none else some (digitsValue 10 digits))

/-- How what is found is shown, with the numbers of lines around it, if there is more than one file
or not. -/
def searchStyle (given : Given) (many : Bool) (before after : Option Nat) : SearchStyle :=
  let quiet := ['c', 'l', 'L', 'q'].any given.has
  { inverted := given.has 'v'
    limit := (given.argument? 'm').bind fun word => (lineCount? word).getD none
    before := if quiet then none else before, after := if quiet then none else after
    gap := if prevails given '^' '%' then none else some ((given.argument? '%').getD ['-', '-'])
    piecesOnly := given.has 'o', named := prevails given 'H' 'h' || (many && !given.has 'h')
    cutsName := given.has 'Z', numbered := given.has 'n', placed := given.has 'b'
    aligned := given.has 'T', ending := if given.has 'z' then '\x00' else '\n' }

/-- What is searched for. No patterns match nothing, which is the opposite of what an empty one
matches. -/
def searchQuery (given : Given) (expressions : List Regular) : Query :=
  let none := expressions.isEmpty
  let folded := (given.has 'i' || given.has 'y') && !prevails given '~' 'i'
  ⟨if none then [.empty] else expressions, folded, given.has 'x' && !none, given.has 'w' && !none⟩

/-- Searches files, and those in directories if that is asked for, for expressions, which may be
empty so that all lines match. -/
def searchFiles (name : Octets) (given : Given) (expressions : List Regular) (empty : Bool)
    (before after : Option Nat) (paths : List Octets) : ShellM Nat := do
  let deep := given.has 'r' || given.has 'R' ||
    (given.argument? 'd').map String.ofList = some "recurse"
  let files := (← get).world.files
  let given := withPassedNames files given
  let passed := fun (directory : Octets) => fitsAny (given.argumentsOf '$') directory
  let below := fun (path : Octets) =>
    if deep && files.isDirectory (Octets.toText path) then filesBelow files passed 64 path
    else [path]
  let roots := if !paths.isEmpty then paths else if deep then [['.']] else [['-']]
  let many := 1 < roots.length ||
    (deep && roots.any fun path => files.isDirectory (Octets.toText path))
  let style := searchStyle given many before after
  let style := { style with inverted := style.inverted != expressions.isEmpty }
  let query := searchQuery given expressions
  let never := empty && style.inverted && !query.wholeLine && !query.wholeWord
  if (style.limit = some 0 || never) && !prevails given 'L' 'l' then return 1
  else
    let result ← grepEach name given style query ⟨false, true, false⟩ (roots.flatMap below)
    return if !result.read && !(result.any && given.has 'q') then 2
      else if result.any then 0
      else 1

/-- What can be done with files that are no text. -/
def binaryKinds : List String := ["binary", "text", "without-match"]

/-- Why an option is refused behind some others, if it is. -/
def grepOptionFault? (front : Options) (option : Char) (value : Option Octets) : Option Octets :=
  let word := value.getD []
  let kinds := ['E', 'F', 'G', 'P']
  if ['A', 'B', 'C'].contains option then
    if ((lineCount? word).getD none).isNone then
      some (word ++ ": invalid context length argument".toList)
    else none
  else if option = 'm' && (lineCount? word).isNone then some "invalid max count".toList
  else if kinds.contains option && front.any fun (other, _) =>
      other ≠ option && kinds.contains other then
    some "conflicting matchers specified".toList
  else if option = 'D' && !(["read", "skip"].contains (String.ofList word)) then
    some "unknown devices method".toList
  else if option = '&' && !(binaryKinds.contains (String.ofList word)) then
    some "unknown binary-files type".toList
  else none

/-- The number of lines that an option or another one asks for. -/
def contextOf (given : Given) (option : Char) : Option Nat :=
  let word := (given.argument? option).orElse fun _ => (given.argument? 'C').orElse fun _ =>
    digitContext? given
  word.bind fun word => (lineCount? word).getD none

/-- Says why texts are no expressions. -/
def refusePatterns (name : Octets) : List (SearchPattern × RegularFault) → ShellM Unit
  | [] => return ()
  | (pattern, fault) :: rest => do
    report name (pattern.place ++ fault.message.toList)
    refusePatterns name rest

/-- Says what is odd in expressions, and gives whether they can be searched for. -/
def warnOdd (name : Octets) : List Regular.Oddity → ShellM Bool
  | [] => return true
  | .bareClass :: _ => do
    report name Regular.Oddity.bareClass.message.toList
    return false
  | oddity :: rest => do
    report name ("warning: ".toList ++ oddity.message.toList)
    warnOdd name rest

/-- Searches files for patterns. -/
def grepWith (name : Octets) (given : Given) (patterns : List SearchPattern) (paths : List Octets) :
    ShellM Nat := do
  let patterns := distinctPatterns patterns
  let kind := (given.options.find? fun (option, _) => ['F', 'E', 'G', 'P'].contains option).map
    Prod.fst
  let dialect : Regular.Dialect := ⟨kind.any (· ≠ 'G'), false, false⟩
  let results := patterns.map fun pattern =>
    if kind = some 'F' then (pattern, .ok (Regular.literal pattern.text, []))
    else (pattern, Regular.read dialect pattern.text)
  let refused := results.filterMap fun (pattern, result) =>
    match result with
    | .ok _ => none
    | .error fault => some (pattern, fault)
  let read := results.filterMap fun (_, result) => result.toOption
  refusePatterns name refused
  if !refused.isEmpty || !(← warnOdd name (read.flatMap Prod.snd)) then return 2
  else
    let empty := patterns.all fun pattern => pattern.text.isEmpty
    let (before, after) := (contextOf given 'B', contextOf given 'A')
    searchFiles name given (read.map Prod.fst) empty before after paths

/-- Prints **lines that an expression matches**. -/
def grep : Tool := fun words => do
  let name := words.headD []
  match grepUsage.read (words.length + 1) words.tail with
  | .error fault =>
    report name fault.text
    grepRefuse name
  | .ok given =>
    let (sound, refusal) := soundOptions grepOptionFault? [] given.options
    match ← givenPatterns name sound, refusal with
    | .error status, _ => return status
    | .ok _, some text =>
      report name text
      return 2
    | .ok (some patterns), none => grepWith name given patterns given.arguments
    | .ok none, none =>
      match given.arguments with
      | [] => grepRefuse name
      | pattern :: paths => grepWith name given (givenText pattern) paths

end Tool

end Shell

end CallForest
