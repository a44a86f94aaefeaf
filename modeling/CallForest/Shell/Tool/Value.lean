import CallForest.Shell.Regular.Reading
import CallForest.Shell.Tool.Basic

/-! # Values of words

* `Shell.Tool.WordFault`: why words have no value.
* `Shell.Tool.valueOf`: the value of words.
* `Shell.Tool.expr`: prints it. -/

namespace CallForest

namespace Shell

namespace Tool

/-! ## Operands -/

/-- Why words have no value. -/
inductive WordFault where
  /-- A word is no integer. -/
  | notInteger
  /-- Something is divided by zero. -/
  | zeroDivision
  /-- There is no word behind another one. -/
  | lacksWord (front : Octets)
  /-- A word stands where none can be. -/
  | extraWord (word : Octets)
  /-- A parenthesis closes nothing. -/
  | closesNothing
  /-- A parenthesis is not closed behind a word. -/
  | openGroup (front : Octets)
  /-- A word stands where a parenthesis must be closed. -/
  | insideGroup (word : Octets)
  /-- A word is no regular expression. -/
  | notExpression (fault : RegularFault)

/-- How a fault is reported. -/
def WordFault.text : WordFault → Octets
  | .notInteger => "non-integer argument".toList
  | .zeroDivision => "division by zero".toList
  | .lacksWord front => "syntax error: missing argument after ".toList ++ quoted front
  | .extraWord word => "syntax error: unexpected argument ".toList ++ quoted word
  | .closesNothing => "syntax error: unexpected ')'".toList
  | .openGroup front => "syntax error: expecting ')' after ".toList ++ quoted front
  | .insideGroup word => "syntax error: expecting ')' instead of ".toList ++ quoted word
  | .notExpression fault => fault.message.toList

/-- The integer that a word is. -/
def wholeNumber? (word : Octets) : Option Int :=
  let digits := if word.head? = some '-' then word.tail else word
  if digits.isEmpty || !digits.all Char.isDigit then none
  else
    let value : Int := digitsValue 10 digits
    some (if word.head? = some '-' then -value else value)

/-- The piece at the start of a text that an expression matches: what it remembers, or its length.
-/
def matchPiece (text pattern : Octets) : Except WordFault Octets := do
  let dialect : Regular.Dialect := ⟨false, false, false⟩
  let expression ← (Regular.parse dialect pattern).mapError .notExpression
  let remembers := 0 < expression.groupCount
  match expression.matchAt false (fun _ _ => true) [] text with
  | none => return if remembers then [] else ['0']
  | some found =>
    match found.groups.lookup 1 with
    | some text => return text
    | none => return if remembers then [] else Octets.ofNat found.piece.length

/-- The value of two integers that a word joins. -/
def joinIntegers (operator : Octets) (left right : Int) : Except WordFault Int :=
  match operator with
  | ['+'] => .ok (left + right)
  | ['-'] => .ok (left - right)
  | ['*'] => .ok (left * right)
  | ['/'] => if right = 0 then .error .zeroDivision else .ok (left.tdiv right)
  | _ => if right = 0 then .error .zeroDivision else .ok (left.tmod right)

/-- Whether a value counts as none. -/
def isNull (value : Octets) : Bool := value.isEmpty || wholeNumber? value = some 0

/-- The value of two values that a word joins. -/
def joinValues (operator left right : Octets) : Except WordFault Octets := do
  let truth := fun (holds : Bool) => if holds then ['1'] else ['0']
  match String.ofList operator with
  | "|" => return if !isNull left then left else if !isNull right then right else ['0']
  | "&" => return if isNull left || isNull right then ['0'] else left
  | ":" => matchPiece left right
  | "+" | "-" | "*" | "/" | "%" =>
    match wholeNumber? left, wholeNumber? right with
    | some left, some right => return Octets.ofInt (← joinIntegers operator left right)
    | _, _ => throw .notInteger
  | text =>
    let order := match wholeNumber? left, wholeNumber? right with
      | some left, some right => compareOfLessAndEq left right
      | _, _ => compareOfLessAndEq (String.ofList left) (String.ofList right)
    match text with
    | "<" => return truth (order = .lt)
    | "<=" => return truth (order ≠ .gt)
    | ">" => return truth (order = .gt)
    | ">=" => return truth (order ≠ .lt)
    | "!=" => return truth (order ≠ .eq)
    | _ => return truth (order = .eq)

/-- The words that join values, those that bind least first. -/
def joiners : List (List String) :=
  [["|"], ["&"], ["<", "<=", "=", "==", "!=", ">=", ">"], ["+", "-"], ["*", "/", "%"], [":"]]

/-! ## Rows of words -/

/-- Words that are being read. -/
structure WordRow where
  /-- The last one that has been read. -/
  front : Octets
  /-- Those behind it. -/
  rest : List Octets

/-- What reads words, or does not find what must be there. -/
abbrev WordM := StateT WordRow (Except WordFault)

/-- Reads a word. -/
def takeWord : WordM Octets := do
  let row ← get
  match row.rest with
  | [] => throw (.lacksWord row.front)
  | word :: rest =>
    set (⟨word, rest⟩ : WordRow)
    return word

/-- Reads a word if it is one of some, and gives it. -/
def takeOneOf (words : List String) : WordM (Option Octets) := do
  match (← get).rest with
  | word :: _ =>
    if words.contains (String.ofList word) then return some (← takeWord) else return none
  | [] => return none

/-- Whether the value behind a word that joins values counts, which is so unless the value in front
of it is enough. -/
def countsBehind (operator value : Octets) : Bool :=
  if operator = ['|'] then isNull value else if operator = ['&'] then !isNull value else true

/-- Goes on behind a value as long as words of a level follow, at most `fuel` times. Values that do
not count are not worked out. -/
def joinMore (operators : List String) (next : Bool → WordM Octets) :
    Nat → Bool → Octets → WordM Octets
  | 0, _, value => return value
  | fuel + 1, counts, value => do
    match ← takeOneOf operators with
    | none => return value
    | some operator =>
      let right ← next (counts && countsBehind operator value)
      joinMore operators next fuel counts
        (← if counts then joinValues operator value right else pure value)

/-- The value of words joined by those of some levels. -/
def valueAt (operand : Bool → WordM Octets) : List (List String) → Bool → WordM Octets
  | [], counts => operand counts
  | operators :: levels, counts => do
    let value ← valueAt operand levels counts
    joinMore operators (valueAt operand levels) (← get).rest.length counts value

/-- The part of a text from a place on, counted from one. -/
def partOf (text place size : Octets) : Octets :=
  match wholeNumber? place, wholeNumber? size with
  | some place, some size =>
    if place ≤ 0 || size ≤ 0 then [] else (text.drop (place.toNat - 1)).take size.toNat
  | _, _ => []

mutual

/-- The **value of the next words**, with at most `fuel` operands in each other. -/
def valueOf : Nat → Bool → WordM Octets
  | 0, _ => return []
  | fuel + 1, counts => valueAt (operandOf fuel) joiners counts

/-- The value of the next operand, with at most `fuel` operands in it. -/
def operandOf : Nat → Bool → WordM Octets
  | 0, _ => return []
  | fuel + 1, counts => do
    match (← takeOneOf ["+", "length", "match", "index", "substr"]).map String.ofList with
    | some "+" => takeWord
    | some "length" => return Octets.ofNat (← operandOf fuel counts).length
    | some "match" =>
      let text ← operandOf fuel counts
      let pattern ← operandOf fuel counts
      if counts then matchPiece text pattern else return text
    | some "index" =>
      let text ← operandOf fuel counts
      let characters ← operandOf fuel counts
      return Octets.ofNat ((text.findIdx? characters.contains).elim 0 (· + 1))
    | some _ =>
      let text ← operandOf fuel counts
      let place ← operandOf fuel counts
      let size ← operandOf fuel counts
      return partOf text place size
    | none =>
      match ← takeWord with
      | ['('] =>
        let value ← valueOf fuel counts
        let row ← get
        match row.rest with
        | [')'] :: rest =>
          set (⟨[')'], rest⟩ : WordRow)
          return value
        | [] => throw (.openGroup row.front)
        | word :: _ => throw (.insideGroup word)
      | [')'] => throw .closesNothing
      | word => return word

end

/-- Prints the value of words. -/
def expr : Tool := fun words => do
  let name := words.headD []
  let words := if words.tail.head? = some "--".toList then words.tail.tail else words.tail
  if words.isEmpty then
    let _ ← lacksOperand name
    return 2
  else
    match (valueOf (3 * words.length + 3) true).run ⟨[], words⟩ with
    | .error fault =>
      report name fault.text
      return 2
    | .ok (_, ⟨_, extra :: _⟩) =>
      report name (WordFault.text (.extraWord extra))
      return 2
    | .ok (value, _) =>
      printLine value
      return if isNull value then 1 else 0

end Tool

end Shell

end CallForest
