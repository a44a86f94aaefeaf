import CallForest.Shell.Numeral
import CallForest.Shell.Session

/-! # Conditions

A condition compares texts and integers, or asks about files. Conditions are joined by words for
not, and and or; what a word means depends on how many words there are around it.

* `Shell.Operator`: the words that are operators.
* `Shell.condition`: whether a condition holds. -/

namespace CallForest

namespace Shell

/-- What an operator stands between or in front of. -/
inductive OperatorKind where
  /-- It asks about the word behind it. -/
  | unary
  /-- It compares the words around it. -/
  | binary
  /-- It is the opposite of what is behind it. -/
  | not
  /-- Both sides have to hold. -/
  | and
  /-- One of the sides has to hold. -/
  | or
  /-- It opens a group. -/
  | opening
  /-- It closes a group. -/
  | closing
  deriving DecidableEq, Repr

/-- An operator of conditions. -/
structure Operator where
  /-- The word. -/
  word : String
  /-- What it stands between or in front of. -/
  kind : OperatorKind
  deriving DecidableEq, Repr

/-- The words that ask about the word behind them. -/
def unaryWords : List String :=
  ["-r", "-w", "-x", "-e", "-f", "-d", "-c", "-b", "-p", "-u", "-g", "-k", "-s", "-t", "-z", "-n",
    "-h", "-L", "-O", "-G", "-S"]

/-- The words that compare the words around them. -/
def binaryWords : List String :=
  ["=", "!=", "<", ">", "-eq", "-ne", "-ge", "-gt", "-le", "-lt", "-nt", "-ot", "-ef"]

/-- The operator that a word is. -/
def operator? (word : Octets) : Option Operator :=
  let text := String.ofList word
  let kind? : Option OperatorKind :=
    if unaryWords.contains text then some .unary
    else if binaryWords.contains text then some .binary
    else
      match text with
      | "!" => some .not
      | "-a" => some .and
      | "-o" => some .or
      | "(" => some .opening
      | ")" => some .closing
      | _ => none
  kind?.map (Operator.mk text)

/-- What a word is where a condition is read. -/
inductive Reading where
  /-- There is no word. -/
  | nothing
  /-- A word that is compared. -/
  | operand
  /-- An operator. -/
  | operator (operator : Operator)
  deriving DecidableEq, Repr

/-- Whether the word behind an operator makes that an operand: there is none, or it compares. -/
def isOperand (behind : List Octets) : Bool :=
  match behind with
  | [] => true
  | [_] => false
  | next :: _ => (operator? next).any (·.kind = .binary)

/-- What the first of some words is. -/
def readingOf (words : List Octets) : Reading :=
  match words with
  | [] => .nothing
  | word :: behind =>
    match operator? word with
    | some operator =>
      if operator.kind = .unary && isOperand behind then .operand
      else if operator.kind = .opening && behind.isEmpty then .operand
      else .operator operator
    | none => .operand

/-- Whether a word is an operator of a kind. -/
def Reading.is (kind : OperatorKind) : Reading → Bool
  | .operator found => found.kind = kind
  | _ => false

/-! ## Questions -/

/-- Reports that a condition makes no sense. -/
def refuseCondition {α : Type} (word : Octets) (text : String) : ShellM α :=
  fail ((if word.isEmpty then [] else word ++ ": ".toList) ++ text.toList)

/-- The integer that a word is. -/
def integerOf (word : Octets) : ShellM Int := do
  match integer? false word with
  | some value => return value
  | none => fail ("Illegal number: ".toList ++ word)

/-- What is under a path, or at the other end of a stream. -/
def entryUnder (path : Octets) : ShellM (Option FileEntry) := do
  let session ← get
  let text := Octets.toText path
  match (streamOf? text).bind (session.descriptors.lookup ·) with
  | some number =>
    match session.world.openings.lookup number with
    | some (.file location _ _ _ _) => return session.world.files.entry? location
    | some .sink => return some .sink
    | _ => return none
  | none => return (session.world.files.find text).toOption

/-- Whether a path leads to a pipe. -/
def isPipe (path : Octets) : ShellM Bool := do
  let session ← get
  match (streamOf? (Octets.toText path)).bind (session.descriptors.lookup ·) with
  | some number =>
    match session.world.openings.lookup number with
    | some (.supply _) | some (.collection _) => return true
    | _ => return false
  | none => return false

/-- The answer to a question about a word. -/
def ask (word : String) (operand : Octets) : ShellM Bool := do
  let entry ← entryUnder operand
  let pipe ← isPipe operand
  match word with
  | "-z" => return operand.isEmpty
  | "-n" => return !operand.isEmpty
  | "-t" =>
    let _ ← integerOf operand
    return false
  | "-e" | "-r" | "-w" | "-O" | "-G" => return entry.isSome || pipe
  | "-x" =>
    match entry with
    | some (.file _ executable) => return executable
    | some .directory | some (.program _) => return true
    | _ => return false
  | "-f" =>
    match entry with
    | some (.file _ _) | some (.program _) => return true
    | _ => return false
  | "-d" => return entry = some .directory
  | "-c" => return entry = some .sink
  | "-p" => return pipe
  | "-s" =>
    match entry with
    | some (.file content _) => return !content.isEmpty
    | some .directory | some (.program _) => return true
    | _ => return false
  | _ => return false

/-- The answer to a comparison. -/
def compare (left : Octets) (word : String) (right : Octets) : ShellM Bool := do
  let integers := fun (holds : Int → Int → Bool) => do
    let left ← integerOf left
    let right ← integerOf right
    return holds left right
  match word with
  | "=" => return left = right
  | "!=" => return left ≠ right
  | "<" => return decide (left < right)
  | ">" => return decide (right < left)
  | "-eq" => integers fun left right => left = right
  | "-ne" => integers fun left right => left ≠ right
  | "-ge" => integers fun left right => right ≤ left
  | "-gt" => integers fun left right => right < left
  | "-le" => integers fun left right => left ≤ right
  | "-lt" => integers fun left right => left < right
  | _ =>
    let files := (← get).world.files
    let first := files.locate (Octets.toText left)
    let second := files.locate (Octets.toText right)
    match word, first, second with
    | "-ef", .ok (location, _), .ok (other, _) => return location = other
    | _, _, _ => return false

/-! ## Conditions -/

/-- A level of the grammar of conditions. -/
inductive Joint where
  /-- Conditions of which one has to hold. -/
  | any
  /-- Conditions that all have to hold. -/
  | all
  /-- A condition or its opposite. -/
  | opposite
  /-- A single condition. -/
  | single
  deriving DecidableEq, Repr

/-- Evaluates a comparison, or a word alone, which holds if there is anything in it. -/
def comparison (words : List Octets) : ShellM (Bool × List Octets) := do
  match words, readingOf words.tail with
  | left :: _, .operator operator =>
    if operator.kind = .binary then
      match words.drop 2 with
      | [] => refuseCondition operator.word.toList "argument expected"
      | right :: rest => return (← compare left operator.word right, right :: rest)
    else return (!left.isEmpty, words)
  | left :: _, _ => return (!left.isEmpty, words)
  | [], _ => return (false, words)

/-- Evaluates a condition of a level that the first of some words begins, which is read in a given
way. Gives the words from the last one that belongs to it on. -/
def evaluate : Nat → Joint → Reading → List Octets → ShellM (Bool × List Octets)
  | 0, _, _, words => return (false, words)
  | fuel + 1, .any, reading, words => do
    let (first, words) ← evaluate fuel .all reading words
    let behind := words.tail
    if (readingOf behind).is .or then
      let (rest, words) ← evaluate fuel .any (readingOf behind.tail) behind.tail
      return (first || rest, words)
    else return (first, words)
  | fuel + 1, .all, reading, words => do
    let (first, words) ← evaluate fuel .opposite reading words
    let behind := words.tail
    if (readingOf behind).is .and then
      let (rest, words) ← evaluate fuel .all (readingOf behind.tail) behind.tail
      return (first && rest, words)
    else return (first, words)
  | fuel + 1, .opposite, reading, words => do
    if reading.is .not then
      let behind := words.tail
      let next := if behind.isEmpty then words else behind
      let (holds, words) ← evaluate fuel .opposite (readingOf behind) next
      return (!holds, words)
    else evaluate fuel .single reading words
  | fuel + 1, .single, reading, words => do
    match reading with
    | .nothing => return (false, words)
    | .operator operator =>
      match operator.kind with
      | .opening =>
        let inside := words.tail
        if (readingOf inside).is .closing then return (false, inside)
        else
          let (holds, words) ← evaluate fuel .any (readingOf inside) inside
          let behind := words.tail
          if (readingOf behind).is .closing then return (holds, behind)
          else refuseCondition [] "closing paren expected"
      | .unary =>
        match words.tail with
        | [] => refuseCondition operator.word.toList "argument expected"
        | operand :: rest => return (← ask operator.word operand, operand :: rest)
      | _ => comparison words
    | .operand => comparison words

/-- Evaluates all of some words, of which the first is read in a given way. -/
def evaluateAll (reading : Reading) (words : List Octets) : ShellM Bool := do
  let (holds, rest) ← evaluate (words.length * 4 + 4) .any reading words
  match rest with
  | word :: _ :: _ => refuseCondition word "unexpected operator"
  | _ => return holds

/-- Whether a **condition holds**. Three words with a comparison in the middle are one, and of three
and four words parentheses around the others and a negation in front of them are taken off first. -/
def condition : Nat → List Octets → ShellM Bool
  | 0, _ => return false
  | fuel + 1, words => do
    let compares := ((words[1]?).bind operator?).any (·.kind = .binary)
    if words.isEmpty then return false
    else if words.length = 3 && compares then evaluateAll .operand words
    else if words.length = 3 || words.length = 4 then
      if words.head? = some ['('] && words.getLast? = some [')'] then
        let inside := words.tail.dropLast
        evaluateAll (readingOf inside) inside
      else if words.head? = some ['!'] then return !(← condition fuel words.tail)
      else evaluateAll (readingOf words) words
    else evaluateAll (readingOf words) words

/-- The status of a condition. -/
def test (words : List Octets) : ShellM Nat := do
  return if ← condition (words.length + 1) words then 0 else 1

/-- The status of a condition between brackets. -/
def testInBrackets (words : List Octets) : ShellM Nat := do
  if words.getLast? = some [']'] then test words.dropLast else failText "missing ]"

end Shell

end CallForest
