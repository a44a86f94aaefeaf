import CallForest.Shell.Condition
import CallForest.Shell.Tool.Basic

/-! # A tool that answers questions

The tool answers what the command of the shell does too, but how words are understood depends in
another way on how many there are.

* `Shell.Tool.QuestionFault`: why words are no question.
* `Shell.Tool.answer`: the answer to a question.
* `Shell.Tool.testTool`, `Shell.Tool.testToolInBrackets`: the tool. -/

namespace CallForest

namespace Shell

namespace Tool

/-! ## Words -/

/-- Why words are no question. -/
inductive QuestionFault where
  /-- There is no word behind the last one. -/
  | lacksWord
  /-- A word stands behind the question. -/
  | extraWord (word : Octets)
  /-- A word asks nothing about another one. -/
  | notUnary (word : Octets)
  /-- A word compares nothing. -/
  | notBinary (word : Octets)
  /-- A word is no integer. -/
  | notInteger (word : Octets)
  /-- A parenthesis is not closed. -/
  | openGroup
  /-- A word stands where a parenthesis must be closed. -/
  | insideGroup (word : Octets)
  /-- The last bracket is missing. -/
  | openBracket

/-- How a fault in some words is reported. -/
def QuestionFault.text (words : List Octets) : QuestionFault → Octets
  | .lacksWord => "missing argument after ".toList ++ quoted (words.getLast?.getD [])
  | .extraWord word => "extra argument ".toList ++ quoted word
  | .notUnary word => quoted word ++ ": unary operator expected".toList
  | .notBinary word => quoted word ++ ": binary operator expected".toList
  | .notInteger word => "invalid integer ".toList ++ quoted word
  | .openGroup => "')' expected".toList
  | .insideGroup word => "')' expected, found ".toList ++ quoted word
  | .openBracket => "missing ']'".toList

/-- What reads words and answers questions about them. -/
abbrev QuestionM := StateT (List Octets) (ExceptT QuestionFault ShellM)

/-- Reads a word. -/
def readWord : QuestionM Octets := do
  match ← get with
  | [] => throw .lacksWord
  | word :: rest =>
    set rest
    return word

/-- Reads a word behind which there is another one. -/
def readWordWithin : QuestionM Octets := do
  let word ← readWord
  if (← get).isEmpty then throw .lacksWord else return word

/-! ## Questions -/

/-- The words that compare the words around them. -/
def comparing : List String :=
  ["=", "==", "!=", "-nt", "-ot", "-ef", "-eq", "-ne", "-lt", "-le", "-gt", "-ge"]

/-- Whether a word compares those around it. -/
def isComparing (word : Option Octets) : Bool :=
  word.any fun word => comparing.contains (String.ofList word)

/-- The words that ask about the word behind them. -/
def asking : List Char := "erwxNOGfdsScbpLhugktnz".toList

/-- Whether a word is a dash and a letter. -/
def isLetterWord (word : Octets) : Bool := word.length = 2 && word.head? = some '-'

/-- The answer to a question about the word behind the next one. -/
def askUnary : QuestionM Bool := do
  match ← get with
  | [] => throw .lacksWord
  | word :: rest =>
    if !asking.contains (word.getLast?.getD ' ') then throw (.notUnary word)
    match rest with
    | [] => throw .lacksWord
    | operand :: rest =>
      set rest
      if word = "-t".toList then
        if (integer? false operand).isNone then throw (.notInteger operand) else return false
      else ask (String.ofList word) operand

/-- Reads what is compared: a word, or the length of one if a word says so. -/
def readCompared (byLength : Bool) : QuestionM Octets := do
  if byLength then
    let _ ← readWord
    return Octets.ofNat (← readWord).length
  else readWord

/-- The place of a file among all that are there. -/
def ageOf (files : FileSystem) (path : Octets) : Option Nat :=
  match files.locate (Octets.toText path) with
  | .ok (location, _) => some (files.entries.findIdx (·.1 = location))
  | .error _ => none

/-- The answer to the comparison of the next words. -/
def askBinary (leftLength : Bool) : QuestionM Bool := do
  let left ← readCompared leftLength
  let word := String.ofList (← readWord)
  let rest ← get
  let right ← readCompared (rest.head? = some "-l".toList && 1 < rest.length)
  let files := (← getThe Session).world.files
  let integers := fun (holds : Ordering → Bool) =>
    match integer? false left, integer? false right with
    | none, _ => throw (QuestionFault.notInteger left)
    | _, none => throw (QuestionFault.notInteger right)
    | some left, some right => return holds (compareOfLessAndEq left right)
  let newer := fun (age other : Option Nat) =>
    match age, other with
    | some age, some other => decide (other < age)
    | some _, none => true
    | none, _ => false
  match word with
  | "=" | "==" => return left = right
  | "!=" => return left ≠ right
  | "-eq" => integers (· = .eq)
  | "-ne" => integers (· ≠ .eq)
  | "-lt" => integers (· = .lt)
  | "-le" => integers (· ≠ .gt)
  | "-gt" => integers (· = .gt)
  | "-ge" => integers (· ≠ .lt)
  | "-nt" => return newer (ageOf files left) (ageOf files right)
  | "-ot" => return newer (ageOf files right) (ageOf files left)
  | _ => return (ageOf files left).isSome && ageOf files left = ageOf files right

/-! ## Joining questions -/

/-- How words are understood. -/
inductive QuestionLevel where
  /-- By their number. -/
  | counted (count : Nat)
  /-- As questions of which the answer to one has to be yes. -/
  | any
  /-- As questions of which all answers have to be yes. -/
  | all
  /-- As a single question. -/
  | single

/-- The **answer** to a question of a level, with at most `fuel` questions in each other. -/
def answer : Nat → QuestionLevel → QuestionM Bool
  | 0, _ => return false
  | fuel + 1, .any => do
    let first ← answer fuel .all
    match ← get with
    | ['-', 'o'] :: rest =>
      set rest
      return (← answer fuel .any) || first
    | _ => return first
  | fuel + 1, .all => do
    let first ← answer fuel .single
    match ← get with
    | ['-', 'a'] :: rest =>
      set rest
      return (← answer fuel .all) && first
    | _ => return first
  | fuel + 1, .single => do
    let words ← get
    match words with
    | [] => throw .lacksWord
    | ['!'] :: _ =>
      let _ ← readWordWithin
      return !(← answer fuel .single)
    | ['('] :: _ =>
      let _ ← readWordWithin
      let inside ← get
      let close := inside.tail.findIdx (· = [')'])
      let holds ← answer fuel (.counted (if close < 4 then close + 1 else inside.length))
      match ← get with
      | [] => throw .openGroup
      | [')'] :: rest =>
        set rest
        return holds
      | word :: _ => throw (.insideGroup word)
    | word :: rest =>
      if word = "-l".toList && 4 ≤ words.length && isComparing words[2]? then askBinary true
      else if 3 ≤ words.length && isComparing rest.head? then askBinary false
      else if isLetterWord word then askUnary
      else
        set rest
        return !word.isEmpty
  | fuel + 1, .counted count => do
    let words ← get
    let word := words.headD []
    match count with
    | 1 => return !(← readWord).isEmpty
    | 2 =>
      if word = ['!'] then
        let _ ← readWord
        return (← readWord).isEmpty
      else if isLetterWord word then askUnary
      else throw .lacksWord
    | 3 =>
      if isComparing words[1]? then askBinary false
      else if word = ['!'] then
        let _ ← readWord
        return !(← answer fuel (.counted 2))
      else if word = ['('] && words[2]? = some [')'] then
        set (words.drop 3)
        return words[1]?.any (!·.isEmpty)
      else if [some "-a".toList, some "-o".toList].contains words[1]? then answer fuel .any
      else throw (.notBinary (words.getD 1 []))
    | 4 =>
      if word = ['!'] then
        let _ ← readWord
        return !(← answer fuel (.counted 3))
      else if word = ['('] && words[3]? = some [')'] then
        let _ ← readWord
        let holds ← answer fuel (.counted 2)
        let _ ← readWord
        return holds
      else answer fuel .any
    | _ => answer fuel .any

/-- The status of the answer to a question that some words ask. -/
def answerStatus (name : Octets) (words : List Octets) : ShellM Nat := do
  if words.isEmpty then return 1
  else
    match ← ((answer (words.length * 4 + 8) (.counted words.length)).run words).run with
    | .ok (holds, []) => return if holds then 0 else 1
    | .ok (_, extra :: _) =>
      report name (QuestionFault.text words (.extraWord extra))
      return 2
    | .error fault =>
      report name (fault.text words)
      return 2

/-- **Answers a question.** -/
def testTool : Tool := fun words => answerStatus (words.headD []) words.tail

/-- Answers a question between brackets. -/
def testToolInBrackets : Tool := fun words => do
  if words.tail.getLast? = some [']'] then answerStatus (words.headD []) words.tail.dropLast
  else
    report (words.headD []) (QuestionFault.text [] .openBracket)
    return 2

end Tool

end Shell

end CallForest
