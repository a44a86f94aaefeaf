import CallForest.Shell.Tool.Sort

/-! # Tools on lines that are alike

* `Shell.Tool.uniq`: prints one line of each row of lines that are alike. -/

namespace CallForest

namespace Shell

namespace Tool

/-! ## Rows of lines -/

/-- Lines in rows of those that are alike. -/
def rowsOf (alike : Octets → Octets → Bool) (lines : List Octets) : List (List Octets) :=
  lines.foldr (fun line rows =>
    match rows with
    | (first :: rest) :: others =>
      if alike line first then (line :: first :: rest) :: others else [line] :: rows
    | _ => [line] :: rows) []

/-- What is compared of a line. -/
structure LinePart where
  /-- How many fields are passed over. -/
  fields : Nat
  /-- How many characters behind them. -/
  characters : Nat
  /-- How many characters are compared at most. -/
  limit : Option Nat
  /-- Whether small and capital letters count as the same. -/
  folded : Bool

/-- A line behind some fields. -/
def skipFields : Nat → Octets → Octets
  | 0, line => line
  | count + 1, line =>
    skipFields count ((line.dropWhile Order.isBlank).dropWhile (!Order.isBlank ·))

/-- The part of a line that is compared. -/
def LinePart.of (part : LinePart) (line : Octets) : Octets :=
  let rest := (skipFields part.fields line).drop part.characters
  let rest := part.limit.elim rest rest.take
  if part.folded then rest.map Char.toLower else rest

/-- How rows of lines are shown. -/
structure RowStyle where
  /-- Whether lines in front of which their number stands. -/
  counts : Bool
  /-- Whether rows of one line are shown. -/
  single : Bool
  /-- Whether a line of longer rows is shown. -/
  repeated : Bool
  /-- Whether the other lines of longer rows are shown. -/
  others : Bool

/-- The lines that are shown of a row. -/
def RowStyle.shown (style : RowStyle) (row : List Octets) : List Octets :=
  match row with
  | [] => []
  | first :: rest =>
    let digits := Octets.ofNat row.length
    let count := List.replicate (7 - digits.length) ' ' ++ digits ++ [' ']
    let chosen :=
      if rest.isEmpty then (if style.single then [first] else [])
      else if style.others then
        row.take rest.length ++ if style.repeated then row.drop rest.length else []
      else if style.repeated then [first]
      else []
    if style.counts then chosen.map (count ++ ·) else chosen

/-! ## Options -/

/-- How lines that are alike are looked for. -/
def uniqUsage : Usage where
  plain := "cdDiuz0123456789".toList
  valued := ['f', 's', 'w']
  loose := ['!', '@']
  long := [("count", 'c'), ("repeated", 'd'), ("all-repeated", '!'), ("group", '@'),
    ("ignore-case", 'i'), ("unique", 'u'), ("skip-fields", 'f'), ("skip-chars", 's'),
    ("check-chars", 'w'), ("zero-terminated", 'z')]

/-- The options whose arguments say where rows are divided. -/
def divisions : List WordOption := [
  ⟨'!', "--all-repeated", [["none"], ["prepend"], ["separate"]]⟩,
  ⟨'@', "--group", [["prepend"], ["append"], ["separate"], ["both"]]⟩]

/-- Why the number of an option is refused, if it is. -/
def numberFault? (option : Char) (value : Option Octets) : Option Octets :=
  let about := match option with
    | 'f' => "fields to skip"
    | 's' => "bytes to skip"
    | 'w' => "bytes to compare"
    | _ => ""
  let word := value.getD []
  let digits := if word.head? = some '+' then word.tail else word
  if about.isEmpty || (!digits.isEmpty && digits.all Char.isDigit) then none
  else some (word ++ ": invalid number of ".toList ++ about.toList)

/-- The lines of some rows, with empty ones between rows where a word says so. -/
def dividedRows (option : Char) (word : String) (rows : List (List Octets)) : List Octets :=
  match word with
  | "none" => rows.flatten
  | "prepend" => rows.flatMap ([] :: ·)
  | "append" => rows.flatMap (· ++ [[]])
  | "both" => (if option = '@' && !rows.isEmpty then [[]] else []) ++ rows.flatMap (· ++ [[]])
  | _ => [[]].intercalate rows

/-- What is printed of some rows. -/
def shownRows (given : Given) (chosen : List (Char × String)) (rows : List (List Octets)) :
    List Octets :=
  let all := given.has 'D' || given.has '!'
  let style : RowStyle := ⟨given.has 'c', !given.has 'd' && !all, !given.has 'u', all⟩
  let shown := (rows.map style.shown).filter (!·.isEmpty)
  let word := fun (options : List Char) (standard : String) =>
    match given.options.reverse.find? fun (option, _) => options.contains option with
    | some (option, some _) => (chosen.lookup option).getD standard
    | _ => standard
  if given.has '@' then dividedRows '@' (word ['@'] "separate") rows
  else if given.has '!' then dividedRows '!' (word ['!', 'D'] "none") shown
  else shown.flatten

/-- How many fields are passed over: digits that stand for options are those of one number, unless
the option for that stands between them. -/
def passedFields (options : Options) : Nat :=
  let (fields, _) := options.foldl (fun (fields, digits) (option, value) =>
    if option = 'f' then (digitsValue 10 ((value.getD []).filter Char.isDigit), false)
    else if option.isDigit then
      ((if digits then fields * 10 else 0) + digitsValue 10 [option], true)
    else (fields, digits)) ((0, true) : Nat × Bool)
  fields

/-- What is printed of a text. -/
def shownAlike (given : Given) (chosen : List (Char × String)) (text : Octets) : Octets :=
  let number := fun (option : Char) =>
    (given.argument? option).map fun word => digitsValue 10 (word.filter Char.isDigit)
  let part : LinePart :=
    ⟨passedFields given.options, (number 's').getD 0, number 'w', given.has 'i'⟩
  let ending := if given.has 'z' then '\x00' else '\n'
  let lines := (linesEnding ending text).map fun line =>
    if line.getLast? = some ending then line.dropLast else line
  let rows := rowsOf (fun left right => part.of left = part.of right) lines
  (shownRows given chosen rows).flatMap (· ++ [ending])

/-- Prints one line of each row of lines that are alike, as some words say where rows are divided.
-/
def uniqAs (name : Octets) (given : Given) (chosen : List (Char × String)) : ShellM Nat := do
  let all := given.has 'D' || given.has '!'
  match given.arguments.drop 2 with
  | extra :: _ => extraOperand name extra
  | [] =>
    if given.has '@' && (all || ['c', 'd', 'u'].any given.has) then
      misuse name "--group is mutually exclusive with -c/-d/-D/-u".toList 1
    else if all && given.has 'c' then
      misuse name "printing all duplicated lines and repeat counts is meaningless".toList 1
    else
      let path := given.arguments.headD ['-']
      match ← contentOf path, given.arguments.getD 1 ['-'] with
      | .error fault, _ =>
        let direct := fault ≠ .isDirectory && path ≠ ['-']
        let about := if direct then quotedIfNeeded path else "error reading ".toList ++ quoted path
        reportFault name about fault 1
      | .ok text, ['-'] =>
        print (shownAlike given chosen text)
        return 0
      | .ok text, target =>
        match ← writeFile target (shownAlike given chosen text) with
        | .error fault => reportFault name (quotedIfNeeded target) fault 1
        | .ok () => return 0

/-- Whether a word is a plus sign and a number. -/
def isPassing (word : Octets) : Bool :=
  word.head? = some '+' && !word.tail.isEmpty && word.tail.all Char.isDigit

/-- Prints one line of each row of **lines that are alike**. A number behind a plus sign says how
many characters are passed over. -/
def uniq : Tool := fun words =>
  uniqUsage.run words fun name given => do
    let (passing, arguments) := given.arguments.partition isPassing
    let given : Given := ⟨given.options ++ passing.map fun word => ('s', some word), arguments⟩
    let (sound, fault) := soundOptions (fun _ => numberFault?) [] given.options
    match ← chosenWords name divisions [] sound, fault with
    | none, _ => return 1
    | some _, some text =>
      report name text
      return 1
    | some chosen, none => uniqAs name given chosen

end Tool

end Shell

end CallForest
