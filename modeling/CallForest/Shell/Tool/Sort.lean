import CallForest.Shell.Tool.Copy
import CallForest.Shell.Tool.Order

/-! # Tools that order lines

* `Shell.Tool.SortKey`: the part of a line that its place depends on.
* `Shell.Tool.sort`: prints lines in order. -/

namespace CallForest

namespace Shell

namespace Tool

/-! ## Keys -/

/-- The letters that say how keys are compared. -/
def orderLetters : List Char := "bdfghiMnRrV".toList

/-- Where a key begins or ends: a field, counted from zero, and a character of it. -/
structure KeyPlace where
  /-- How many fields are in front of it. -/
  field : Nat
  /-- How many characters. -/
  character : Nat
  /-- Whether blanks at the start of the field do not count. -/
  skips : Bool

/-- A **key**: a part of a line, and how it is compared. -/
structure SortKey where
  /-- Where it begins. -/
  first : KeyPlace
  /-- Where it ends, if not with the line. -/
  last : Option KeyPlace
  /-- The letters that say how it is compared. -/
  letters : List Char

/-- Why a word is no key. -/
inductive KeyFault where
  /-- There is no number where one must be. -/
  | noCount (about : String) (rest : Octets)
  /-- Something else is wrong. -/
  | bad (about : String)

/-- Reads a number of a key. -/
def keyCount (about : String) (text : Octets) : Except KeyFault (Nat × Octets) :=
  let digits := text.takeWhile Char.isDigit
  if digits.isEmpty then .error (.noCount about text)
  else .ok (digitsValue 10 digits, text.drop digits.length)

/-- The key that a word describes. -/
def SortKey.parse (text : Octets) : Except KeyFault SortKey := do
  let (field, rest) ← keyCount "invalid number at field start" text
  if field = 0 then throw (.bad "field number is zero")
  let (character, rest) ← match rest with
    | '.' :: rest => do
      let (character, rest) ← keyCount "invalid number after '.'" rest
      if character = 0 then throw (.bad "character offset is zero")
      pure (character - 1, rest)
    | rest => pure (0, rest)
  let letters := rest.takeWhile orderLetters.contains
  let first : KeyPlace := ⟨field - 1, character, letters.contains 'b'⟩
  match rest.drop letters.length with
  | [] => return ⟨first, none, letters⟩
  | ',' :: rest =>
    let (field, rest) ← keyCount "invalid number after ','" rest
    if field = 0 then throw (.bad "field number is zero")
    let (character, rest) ← match rest with
      | '.' :: rest => keyCount "invalid number after '.'" rest
      | rest => pure (0, rest)
    let more := rest.takeWhile orderLetters.contains
    if more.length < rest.length then throw (.bad "stray character in field spec")
    return ⟨first, some ⟨field - 1, character, more.contains 'b'⟩, letters ++ more⟩
  | _ => throw (.bad "stray character in field spec")

/-- What is behind some fields of a line. A separator in front of a field that is passed is no part
of what is left, and neither is one in front of that if it is `passed`. -/
def behindFields (separator : Option Char) (passed : Bool) : Nat → Octets → Octets
  | 0, line => line
  | count + 1, line =>
    match separator with
    | some separator =>
      let rest := line.dropWhile (· ≠ separator)
      behindFields (some separator) passed count
        (if rest.isEmpty || (count = 0 && !passed) then rest else rest.tail)
    | none =>
      behindFields none passed count
        ((line.dropWhile Order.isBlank).dropWhile (!Order.isBlank ·))

/-- The **part of a line** that a key is. -/
def SortKey.part (key : SortKey) (separator : Option Char) (line : Octets) : Octets :=
  let skip := fun (skips : Bool) (text : Octets) =>
    if skips then text.dropWhile Order.isBlank else text
  let start := (skip key.first.skips (behindFields separator true key.first.field line)).drop
    key.first.character
  match key.last with
  | none => start
  | some last =>
    let rest :=
      if last.character = 0 then behindFields separator false (last.field + 1) line
      else (skip last.skips (behindFields separator true last.field line)).drop last.character
    start.take (start.length - rest.length)

/-! ## Comparing -/

/-- The order of two texts, compared as some letters say. -/
def compareBy (letters : List Char) (left right : Octets) : Ordering :=
  let has := letters.contains
  let clean := fun (text : Octets) =>
    let text := if has 'd' then text.filter fun c => c.isAlphanum || Order.isBlank c
      else if has 'i' then text.filter isShown
      else text
    if has 'f' then text.map Char.toUpper else text
  let order :=
    if has 'n' then Order.compareDecimals left right
    else if has 'g' then Order.compareFractions left right
    else if has 'h' then Order.compareScaled left right
    else if has 'M' then compareOfLessAndEq (Order.month left) (Order.month right)
    else if has 'V' then Order.compareVersions (clean left) (clean right)
    else Order.compareOctets (clean left) (clean right)
  if has 'r' then order.swap else order

/-- How lines are ordered. -/
structure SortOrder where
  /-- The keys, the first one of which counts most. -/
  keys : List SortKey
  /-- What separates fields, if it is not white space. -/
  separator : Option Char
  /-- Whether lines that are alike in their keys stay in the order that they have. -/
  stable : Bool
  /-- Whether the order is turned around for lines that are alike in their keys. -/
  reversed : Bool

/-- The order of two lines by their keys. -/
def SortOrder.compareKeys (order : SortOrder) (left right : Octets) : Ordering :=
  order.keys.foldl (fun (sofar : Ordering) key =>
    sofar.then <| compareBy key.letters (key.part order.separator left)
      (key.part order.separator right)) .eq

/-- The **order of two lines**. -/
def SortOrder.compare (order : SortOrder) (left right : Octets) : Ordering :=
  let last := Order.compareOctets left right
  let last := if order.reversed then last.swap else last
  if order.keys.isEmpty then last
  else (order.compareKeys left right).then (if order.stable then .eq else last)

/-- Lines without those that are alike to the one in front of them. -/
def distinctLines (alike : Octets → Octets → Bool) : List Octets → List Octets
  | first :: second :: rest =>
    if alike first second then distinctLines alike (first :: rest)
    else first :: distinctLines alike (second :: rest)
  | lines => lines
termination_by lines => lines.length

/-- The lines of some files in order, if each file is, at most `fuel` lines of them. -/
def mergeLines (order : SortOrder) : Nat → List (List Octets) → List Octets
  | 0, _ => []
  | fuel + 1, files =>
    let heads := files.filterMap fun lines => lines.head?
    match heads with
    | [] => []
    | first :: rest =>
      let least := rest.foldl (fun least line =>
        if order.compare line least = .lt then line else least) first
      let place := (files.findIdx? fun lines => lines.head? = some least).getD 0
      least :: mergeLines order fuel (files.modify place List.tail)

/-! ## Options -/

/-- How lines are to be ordered. -/
def sortUsage : Usage where
  plain := "bcCdfghimMnrRsuVz0123456789^".toList
  valued := "koStT!@#".toList
  loose := ['?']
  long := [("ignore-leading-blanks", 'b'), ("check", '?'), ("compress-program", '!'),
    ("debug", '^'), ("dictionary-order", 'd'), ("ignore-case", 'f'), ("files0-from", '!'),
    ("general-numeric-sort", 'g'), ("ignore-nonprinting", 'i'), ("key", 'k'), ("merge", 'm'),
    ("month-sort", 'M'), ("numeric-sort", 'n'), ("human-numeric-sort", 'h'),
    ("version-sort", 'V'), ("random-sort", 'R'), ("random-source", '!'), ("sort", '@'),
    ("output", 'o'), ("reverse", 'r'), ("stable", 's'), ("batch-size", '!'),
    ("buffer-size", 'S'), ("field-separator", 't'), ("temporary-directory", 'T'),
    ("unique", 'u'), ("zero-terminated", 'z'), ("parallel", '!')]
  status := 2

/-- The kinds of order by their names. -/
def orderNames : List (String × Char) :=
  [("general-numeric", 'g'), ("human-numeric", 'h'), ("month", 'M'), ("numeric", 'n'),
    ("random", 'R'), ("version", 'V')]

/-- The options whose arguments are words. -/
def sortWords : List WordOption := [
  ⟨'@', "--sort", orderNames.map fun (name, _) => [name]⟩,
  ⟨'?', "--check", [["quiet", "silent"], ["diagnose-first"]]⟩]

/-- The letters that say how lines are compared, given the words of options. -/
def orderLettersOf (given : Given) (chosen : List (Char × String)) : List Char :=
  let named := (chosen.filter (·.1 = '@')).filterMap fun (_, word) => orderNames.lookup word
  named ++ (given.options.map Prod.fst).filter orderLetters.contains

/-- Letters that cannot stand together, in their order. -/
def clashing (letters : List Char) : Octets :=
  let has := letters.contains
  let kinds := ['n', 'g', 'h', 'M'].filter has
  let others := if has 'V' || has 'R' || has 'd' || has 'i' then 1 else 0
  if 1 < kinds.length + others then "dfghiMnRV".toList.filter has else []

/-- The letter of an option that asks for a check. -/
def checkLetter? (option : Char) (value : Option Octets) : Option Char :=
  match option, value with
  | 'c', _ | 'C', _ => some option
  | '?', some (first :: _) => some (if first = 'd' then 'c' else 'C')
  | '?', _ => some 'c'
  | _, _ => none

/-- Why an option is refused behind some others, if it is. -/
def sortOptionFault? (front : Options) (option : Char) (value : Option Octets) :
    Option Octets :=
  let word := value.getD []
  let others := front.filterMap fun (other, value) => if other = option then value else none
  match option with
  | 't' =>
    if word.isEmpty then some "empty tab".toList
    else if word.length ≠ 1 && word ≠ "\\0".toList then
      some ("multi-character tab ".toList ++ quoted word)
    else if others.any (· ≠ word) then some "incompatible tabs".toList
    else none
  | 'o' => if others.any (· ≠ word) then some "multiple output files specified".toList else none
  | 'k' =>
    match SortKey.parse word with
    | .ok _ => none
    | .error (.noCount about rest) =>
      some (about.toList ++ ": invalid count at start of ".toList ++ quoted rest)
    | .error (.bad about) =>
      some (about.toList ++ ": invalid field specification ".toList ++ quoted word)
  | option =>
    let before := front.findSome? fun (other, value) => checkLetter? other value
    match checkLetter? option value, before with
    | some letter, some other =>
      if letter = other then none else some "options '-cC' are incompatible".toList
    | _, _ => none

/-- How lines are ordered, given the letters for all lines. Keys without letters of their own take
those. -/
def orderOf (given : Given) (letters : List Char) : SortOrder :=
  let keys := (given.argumentsOf 'k').filterMap fun word => (SortKey.parse word).toOption
  let common : KeyPlace := ⟨0, 0, letters.contains 'b'⟩
  let inherit := fun (key : SortKey) =>
    if key.letters.isEmpty then
      { key with
        letters, first := { key.first with skips := letters.contains 'b' }
        last := key.last.map fun last => { last with skips := letters.contains 'b' } }
    else key
  let keys :=
    if !keys.isEmpty then keys.map inherit
    else if letters.all (· = 'r') then []
    else [⟨common, none, letters⟩]
  let separator := (given.argument? 't').bind fun word =>
    if word = "\\0".toList then some '\x00' else word.head?
  ⟨keys, separator, given.has 's' || given.has 'u', letters.contains 'r'⟩

/-! ## Files -/

/-- The lines of each of some files, or the status if one cannot be read. -/
def linesOfAll (name : Octets) (ending : Char) :
    List Octets → ShellM (Except Nat (List (List Octets)))
  | [] => return .ok []
  | path :: rest => do
    match ← contentOf path with
    | .error fault =>
      let text :=
        if fault = .isDirectory then "read failed: "
        else if fault = .badDescriptor then "stat failed: "
        else "cannot read: "
      return .error (← reportFault name (text.toList ++ quotedIfNeeded path) fault 2)
    | .ok text =>
      let lines := (linesEnding ending text).map fun line =>
        if line.getLast? = some ending then line.dropLast else line
      return (← linesOfAll name ending rest).map (lines :: ·)

/-- The first file that is not there, and why. -/
def missingFile? : List Octets → ShellM (Option (Octets × SystemFault))
  | [] => return none
  | path :: rest => do
    if path = ['-'] then missingFile? rest
    else
      match (← get).world.files.find (Octets.toText path) with
      | .error fault =>
        if (streamOf? (Octets.toText path)).isSome then missingFile? rest
        else return some (path, fault)
      | .ok _ => missingFile? rest

/-- Writes a text to a file in place of what is in it. -/
def writeFile (path text : Octets) : ShellM (Except SystemFault Unit) := do
  match ← openFile (Octets.toText path) .overwrite with
  | .error fault => return .error fault
  | .ok number =>
    match (← get).world.write number text with
    | .error fault => return .error fault
    | .ok world =>
      modify fun session => { session with world }
      return .ok ()

/-- Looks for a line that is out of order, and reports it unless that is not asked for. -/
def checkOrder (name : Octets) (given : Given) (order : SortOrder) (silent : Bool) (path : Octets)
    (lines : List Octets) : ShellM Nat := do
  let disorder := fun ((left, right) : Octets × Octets) =>
    match order.compare left right with
    | .gt => true
    | .eq => given.has 'u'
    | .lt => false
  match (lines.zip lines.tail).findIdx? disorder with
  | none => return 0
  | some place =>
    if !silent then
      report name <| path ++ ':' :: Octets.ofNat (place + 2) ++ ": disorder: ".toList ++
        lines.getD (place + 1) []
    return 1

/-- Prints lines in order. -/
def printSorted (given : Given) (order : SortOrder) (name : Octets) (ending : Char)
    (files : List (List Octets)) : ShellM Nat := do
  let sorted :=
    if given.has 'm' then mergeLines order files.flatten.length files
    else files.flatten.mergeSort fun left right => order.compare left right ≠ .gt
  let alike := fun (left right : Octets) => order.compare left right = .eq
  let sorted := if given.has 'u' then distinctLines (alike · ·) sorted else sorted
  let text := sorted.flatMap (· ++ [ending])
  match given.argument? 'o' with
  | none =>
    print text
    return 0
  | some path =>
    match ← writeFile path text with
    | .error fault => reportFault name ("open failed: ".toList ++ quotedIfNeeded path) fault 2
    | .ok () => return 0

/-- Prints lines in order, or checks that they are. -/
def sortWith (name : Octets) (given : Given) (order : SortOrder) (check : Option Char) :
    ShellM Nat := do
  let ending := if given.has 'z' then '\x00' else '\n'
  let paths := inputs given
  match check, paths.drop 1 with
  | some letter, extra :: _ =>
    report name <| "extra operand ".toList ++ quoted extra ++ " not allowed with -".toList ++
      [letter]
    return 2
  | _, _ =>
    match check with
    | some letter =>
      if given.has 'o' then
        report name ("options '-".toList ++ [letter] ++ "o' are incompatible".toList)
        return 2
    | none => pure ()
    match ← missingFile? paths with
    | some (path, fault) =>
      let about := if check.isSome then "open failed: " else "cannot read: "
      reportFault name (about.toList ++ quotedIfNeeded path) fault 2
    | none =>
      match ← linesOfAll name ending paths, check with
      | .error status, _ => return status
      | .ok files, some letter =>
        checkOrder name given order (letter = 'C') (paths.headD []) files.flatten
      | .ok files, none => printSorted given order name ending files

/-- Prints **lines in order**. -/
def sort : Tool := fun words =>
  sortUsage.run words fun name given => do
    let (sound, fault) := soundOptions sortOptionFault? [] given.options
    match ← chosenWords name sortWords [] sound, fault with
    | none, _ => return 1
    | some _, some text =>
      report name text
      return 2
    | some chosen, none =>
      let order := orderOf given (orderLettersOf given chosen)
      match (order.keys.map fun key => clashing key.letters).find? (!·.isEmpty) with
      | some letters =>
        report name ("options '-".toList ++ letters ++ "' are incompatible".toList)
        return 2
      | none =>
        let check := given.options.findSome? fun (option, value) => checkLetter? option value
        sortWith name given order check

end Tool

end Shell

end CallForest
