import CallForest.Shell.Tool.Copy

/-! # Tools on columns

* `Shell.Tool.Columns`: columns of rows.
* `Shell.Tool.cut`: prints columns of lines. -/

namespace CallForest

namespace Shell

namespace Tool

/-! ## Columns -/

/-- Columns: pairs of a first and a last one, if there is a last one. -/
abbrev Columns := List (Nat × Option Nat)

/-- Why a word lists no columns. -/
inductive ColumnFault where
  /-- Columns are numbered from one. -/
  | zero
  /-- The last column is in front of the first one. -/
  | decreasing
  /-- There is neither a first nor a last column. -/
  | noEnd
  /-- There are too many ends. -/
  | badRange
  /-- Something is no number. -/
  | badValue (rest : Octets)

/-- How a fault is reported. -/
def ColumnFault.text (fields : Bool) : ColumnFault → Octets
  | .zero => (if fields then "fields" else "byte/character positions").toList ++
    " are numbered from 1".toList
  | .decreasing => "invalid decreasing range".toList
  | .noEnd => "invalid range with no endpoint: -".toList
  | .badRange =>
    (if fields then "invalid field range" else "invalid byte or character range").toList
  | .badValue rest =>
    (if fields then "invalid field value " else "invalid byte/character position ").toList ++
      quoted rest

namespace Columns

/-- Whether a character separates columns in a list. -/
def separates (character : Char) : Bool :=
  character = ',' || character = ' ' || character = '\t'

/-- Reads the columns at the head of a list, and gives what is behind their separator if there is
one. -/
def readOne (text : Octets) : Except ColumnFault ((Nat × Option Nat) × Option Octets) := do
  let digits := text.takeWhile Char.isDigit
  let first := digitsValue 10 digits
  match text.drop digits.length with
  | '-' :: rest =>
    if !digits.isEmpty && first = 0 then throw .zero
    let ends := rest.takeWhile Char.isDigit
    let last := digitsValue 10 ends
    let first := if digits.isEmpty then 1 else first
    let behind ← match rest.drop ends.length with
      | [] => pure none
      | next :: more =>
        if separates next then pure (some more)
        else throw (if next = '-' then .badRange else .badValue (next :: more))
    if digits.isEmpty && ends.isEmpty then throw .noEnd
    if ends.isEmpty then return ((first, none), behind)
    else if last < first then throw .decreasing
    else return ((first, some last), behind)
  | [] => if first = 0 then throw .zero else return ((first, some first), none)
  | next :: more =>
    if separates next then
      if first = 0 then throw .zero else return ((first, some first), some more)
    else throw (.badValue (next :: more))

/-- The columns that a text lists, at most `fuel` of them. -/
def read : Nat → Octets → Except ColumnFault Columns
  | 0, _ => .ok []
  | fuel + 1, text => do
    match ← readOne text with
    | (column, none) => return [column]
    | (column, some rest) => return column :: (← read fuel rest)

/-- Puts columns together with the one in front of them if they overlap. -/
def merge : Columns → Columns
  | first :: second :: rest =>
    if first.2.all (second.1 ≤ ·) then
      let last := match first.2, second.2 with
        | some last, some other => some (max last other)
        | _, _ => none
      merge ((first.1, last) :: rest)
    else first :: merge (second :: rest)
  | columns => columns
termination_by columns => columns.length

/-- The columns that are left between others, from one on. -/
def gaps (start : Nat) : Columns → Columns
  | [] => [(start, none)]
  | (first, last) :: rest =>
    let front := if start < first then [(start, some (first - 1))] else []
    front ++ last.elim [] fun last => gaps (last + 1) rest

/-- The items of a row in each of some columns that there are. -/
def pick {α : Type} (columns : Columns) (row : List α) : List (List α) :=
  (columns.map fun (first, last) =>
    let rest := row.drop (first - 1)
    last.elim rest fun last => rest.take (last + 1 - first)).filter (!·.isEmpty)

end Columns

/-- The **columns** that a word lists, or the others. -/
def columnsOf (others : Bool) (word : Octets) : Except ColumnFault Columns := do
  let columns ← Columns.read (word.length + 1) word
  let ordered := Columns.merge (columns.mergeSort fun left right => left.1 ≤ right.1)
  return if others then Columns.gaps 1 ordered else ordered

/-! ## Lines -/

/-- How columns are asked for. -/
def cutUsage : Usage where
  plain := ['n', 's', 'z', '!']
  valued := ['b', 'c', 'f', 'd', 'O']
  long := [("bytes", 'b'), ("characters", 'c'), ("fields", 'f'), ("delimiter", 'd'),
    ("only-delimited", 's'), ("output-delimiter", 'O'), ("complement", '!'),
    ("zero-terminated", 'z')]

/-- Why an option is refused behind some others, if it is. -/
def cutOptionFault? (front : Options) (option : Char) (value : Option Octets) : Option Octets :=
  let lists := ['b', 'c', 'f']
  if option = 'd' && 1 < (value.getD []).length then
    some "the delimiter must be a single character".toList
  else if lists.contains option && front.any fun (other, _) => lists.contains other then
    some "only one list may be specified".toList
  else none

/-- Why the options are refused together, if they are. -/
def cutFault? (given : Given) : Option Octets :=
  if !(['b', 'c', 'f'].any given.has) then
    some "you must specify a list of bytes, characters, or fields".toList
  else if !given.has 'f' && given.has 'd' then
    some "an input delimiter may be specified only when operating on fields".toList
  else if !given.has 'f' && given.has 's' then
    some ("suppressing non-delimited lines makes sense\n".toList ++
      "\tonly when operating on fields".toList)
  else none

/-- What is printed of a line, if anything. -/
def cutLine (given : Given) (columns : Columns) (line : Octets) : Option Octets :=
  if given.has 'f' then
    let separator := (given.argument? 'd').elim '\t' (·.headD '\x00')
    let between := (given.argument? 'O').getD [separator]
    if line.contains separator then
      some (between.intercalate (columns.pick (line.splitOn separator)).flatten)
    else if given.has 's' then none
    else some line
  else some (((given.argument? 'O').getD []).intercalate (columns.pick line))

/-- Prints **columns of lines**. -/
def cut : Tool := fun words =>
  cutUsage.run words fun name given => do
    let list :=
      (given.options.find? fun (option, _) => ['b', 'c', 'f'].contains option).bind Prod.snd
    let (_, refusal) := soundOptions cutOptionFault? [] given.options
    let refusal := refusal.orElse fun _ => cutFault? given
    match refusal, columnsOf (given.has '!') (list.getD []) with
    | some text, _ => misuse name text 1
    | none, .error fault => misuse name (fault.text (given.has 'f')) 1
    | none, .ok columns =>
      let ending := if given.has 'z' then '\x00' else '\n'
      let status ← greatestOf (fun path => do
        match ← contentOf path with
        | .error fault => reportFault name (quotedIfNeeded path) fault 1
        | .ok text =>
          let lines := (linesEnding ending text).filterMap fun line =>
            cutLine given columns (if line.getLast? = some ending then line.dropLast else line)
          print (lines.flatMap (· ++ [ending]))
          return 0) (inputs given)
      closeInput name (inputs given) status

end Tool

end Shell

end CallForest
