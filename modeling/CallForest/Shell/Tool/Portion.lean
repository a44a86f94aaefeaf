import CallForest.Shell.Tool.Copy

/-! # Tools that copy portions

* `Shell.Tool.Portion`: how much of a text is wanted.
* `Shell.Tool.head`, `Shell.Tool.tail`: the beginning and the end of files. -/

namespace CallForest

namespace Shell

namespace Tool

/-! ## Portions -/

/-- How much of a text is wanted: lines or bytes, counted from one end. -/
structure Portion where
  /-- Whether bytes are counted. -/
  bytes : Bool
  /-- How many. -/
  count : Nat
  /-- Whether they are counted from the other end. -/
  opposite : Bool
  /-- The character that ends lines. -/
  ending : Char

/-- The beginning of a text. -/
def Portion.front (portion : Portion) (text : Octets) : Octets :=
  let wanted := fun (size : Nat) => if portion.opposite then size - portion.count else portion.count
  if portion.bytes then text.take (wanted text.length)
  else
    let lines := linesEnding portion.ending text
    (lines.take (wanted lines.length)).flatten

/-- The end of a text. -/
def Portion.back (portion : Portion) (text : Octets) : Octets :=
  let passed := fun (size : Nat) =>
    if portion.opposite then portion.count - 1 else size - portion.count
  if portion.bytes then text.drop (passed text.length)
  else
    let lines := linesEnding portion.ending text
    (lines.drop (passed lines.length)).flatten

/-! ## Options -/

/-- How portions are asked for. -/
def portionUsage : Usage where
  plain := "qvzfF0123456789".toList
  valued := ['n', 'c', 's', '!']
  loose := ['?']
  long := [("bytes", 'c'), ("follow", '?'), ("lines", 'n'), ("pid", '!'), ("quiet", 'q'),
    ("silent", 'q'), ("sleep-interval", 's'), ("verbose", 'v'), ("zero-terminated", 'z')]

/-- What an option that is a number asks for. -/
structure CountOption where
  /-- Whether bytes are counted. -/
  bytes : Bool
  /-- How many. -/
  count : Nat
  /-- Whether they are counted from the other end, whatever other options say. -/
  opposite : Bool
  /-- The options that are letters behind the number. -/
  others : List (Char × Option Octets)

/-- Reads the letters behind a number of which a part of a file is to be copied. -/
def countLetters (letters : Octets) (asked : CountOption) : Except Char CountOption :=
  letters.foldlM (fun asked letter =>
    match letter with
    | 'c' => .ok { asked with bytes := true }
    | 'b' => .ok { asked with bytes := true, count := asked.count * 512 }
    | 'k' => .ok { asked with bytes := true, count := asked.count * 1024 }
    | 'm' => .ok { asked with bytes := true, count := asked.count * 1048576 }
    | 'l' => .ok { asked with bytes := false }
    | 'q' | 'v' | 'z' => .ok { asked with others := (letter, none) :: asked.others }
    | letter => .error letter) asked

/-- What the words behind the name of a tool ask for with a number behind a dash, and the other
words. -/
def frontCount? : List Octets → Except Char (Option CountOption × List Octets)
  | ('-' :: first :: more) :: rest =>
    if first.isDigit then
      let digits := (first :: more).takeWhile Char.isDigit
      let asked : CountOption := ⟨false, digitsValue 10 digits, false, []⟩
      (countLetters ((first :: more).drop digits.length) asked).map fun asked => (some asked, rest)
    else .ok (none, ('-' :: first :: more) :: rest)
  | words => .ok (none, words)

/-- What a number behind a sign asks for, and a letter behind it. The number may be missing. -/
def signedCount? (opposite : Bool) (text : Octets) : Option CountOption :=
  let digits := text.takeWhile Char.isDigit
  let count := if digits.isEmpty then 10 else digitsValue 10 digits
  match text.drop digits.length with
  | [] | ['l'] => some ⟨false, count, opposite, []⟩
  | ['c'] => some ⟨true, count, opposite, []⟩
  | ['b'] => some ⟨true, count * 512, opposite, []⟩
  | _ => none

/-- What the words behind the name of a tool ask for with a number behind a sign, which can only be
the first of no more than two words. -/
def backCount? (words : List Octets) : Option CountOption × List Octets :=
  let alone := fun (rest : List Octets) =>
    match rest with
    | [] | [['-', '-'], _] => true
    | [other] => other.head? ≠ some '-' || other = ['-'] || other = ['-', '-']
    | _ => false
  match words with
  | ('-' :: text) :: rest =>
    let asked := if alone rest && text ≠ [] && text ≠ ['c'] then signedCount? false text else none
    (asked, if asked.isSome then rest else words)
  | ('+' :: text) :: rest =>
    let asked := if alone rest then signedCount? true text else none
    (asked, if asked.isSome then rest else words)
  | words => (none, words)

/-- The portion that the options ask for. A number that is counted from the other end stands behind
`sign`. -/
def portion (name : Octets) (sign : Char) (given : Given) (asked : CountOption) :
    ShellM (Option Portion) := do
  let ending := if given.has 'z' || asked.others.any (·.1 = 'z') then '\x00' else '\n'
  let read := fun (portion : Portion) ((option, value) : Char × Option Octets) =>
    show Except (String × Octets) Portion from
    let word := value.getD []
    let number := if sign = '+' && word.head? = some '+' then word
      else if word.head? = some '-' then word.tail
      else word
    if option ≠ 'n' && option ≠ 'c' then .ok portion
    else
      match count? number with
      | some count =>
        let opposite := word.head? = some sign || sign = '+' && portion.opposite
        .ok ⟨option = 'c', count, opposite, ending⟩
      | none => .error (if option = 'c' then "bytes" else "lines", number)
  match given.options.foldlM read ⟨asked.bytes, asked.count, asked.opposite, ending⟩ with
  | .ok portion => return some portion
  | .error (kind, number) =>
    report name ("invalid number of ".toList ++ kind.toList ++ ": ".toList ++ quoted number)
    return none

/-! ## Files -/

/-- Copies portions of files, under their names if they are `titled`, behind some that have been
copied if there are any. Gives the greatest status. -/
def copyEach (name : Octets) (titled : Bool) (cut : Octets → Octets)
    (input : ShellM (Except SystemFault Octets)) : Bool → List Octets → ShellM Nat
  | _, [] => return 0
  | behindOthers, path :: rest => do
    let shown := if path = ['-'] then "standard input".toList else path
    let gap := if behindOthers then ['\n'] else []
    let title := if titled then gap ++ "==> ".toList ++ shown ++ " <==\n".toList else []
    match ← if path = ['-'] then input else contentOf path with
    | .ok text =>
      print (title ++ cut text)
      copyEach name titled cut input true rest
    | .error fault =>
      let opened := fault = .isDirectory || path = ['-']
      if opened then print title
      let about :=
        if opened then "error reading ".toList ++ quoted shown
        else "cannot open ".toList ++ quoted shown ++ " for reading".toList
      let status ← reportFault name about fault 1
      return max status (← copyEach name titled cut input (behindOthers || opened) rest)

/-- Whether names are printed above portions of files. -/
def isTitled (options : List (Char × Option Octets)) (files : List Octets) : Bool :=
  match options.reverse.find? fun (option, _) => option = 'q' || option = 'v' with
  | some (option, _) => option = 'v'
  | none => 1 < files.length

/-- How many lines are copied if no number is given. -/
def standardCount : CountOption := ⟨false, 10, false, []⟩

/-- Copies the beginnings of files. -/
def head : Tool := fun words => do
  let name := words.headD []
  match frontCount? words.tail with
  | .error letter => misuse name ("invalid trailing option -- ".toList ++ [letter]) 1
  | .ok (asked, rest) => portionUsage.run (name :: rest) fun name given => do
    match given.options.find? (·.1.isDigit) with
    | some (digit, _) => misuse name ("invalid trailing option -- ".toList ++ [digit]) 1
    | none =>
      let asked := asked.getD standardCount
      match ← portion name '-' given asked with
      | none => return 1
      | some portion =>
        let files := inputs given
        let block := if portion.bytes then 1 else 8192
        let input := takeInput block fun text => (portion.front text).length
        let titled := isTitled (asked.others.reverse ++ given.options) files
        closeInput name files (← copyEach name titled portion.front input false files)

/-- Copies the ends of files. -/
def tail : Tool := fun words => do
  let (asked, rest) := backCount? words.tail
  portionUsage.run (words.headD [] :: rest) fun name given => do
    match given.options.find? (·.1.isDigit) with
    | some (digit, _) =>
      report name ("option used in invalid context -- ".toList ++ [digit])
      return 1
    | none =>
      match ← portion name '+' given (asked.getD standardCount) with
      | none => return 1
      | some portion =>
        let files := inputs given
        if portion.count = 0 && !portion.opposite then return 0
        else
          let titled := isTitled given.options files
          let input := read 0 none
          closeInput name files (← copyEach name titled portion.back input false files)

end Tool

end Shell

end CallForest
