import CallForest.Shell.Numeral
import CallForest.Shell.Regular.Bracket

/-! # Reading regular expressions

A text is read sign by sign. In the basic notation a backslash gives parentheses, braces and bars
their meaning, in the extended notation it takes it from them. A sign may have no meaning where it
is; it stands for itself then, or is refused.

* `Shell.Regular.Dialect`: how regular expressions are written.
* `Shell.Regular.Oddity`: what is odd in one.
* `Shell.Regular.read`, `Shell.Regular.parse`: reads one. -/

namespace CallForest

namespace Shell

namespace Regular

/-- How regular expressions are written. -/
structure Dialect where
  /-- Whether parentheses, braces and bars have their meaning without a backslash. -/
  extended : Bool
  /-- Whether signs are refused that have no meaning where they are. -/
  strict : Bool
  /-- Whether the start and the end of the line stand for those of its rows. -/
  byRows : Bool

/-! ## Signs -/

/-- A sign of a regular expression. -/
inductive Sign where
  /-- A place. -/
  | place (place : Place)
  /-- The start of the line. -/
  | start
  /-- The end of the line. -/
  | finish
  /-- The start of a row of the line. -/
  | rowStart
  /-- The end of a row of the line. -/
  | rowFinish
  /-- The edge of a word. -/
  | edge (kind : WordEdge)
  /-- It opens a group. -/
  | opening
  /-- It closes a group. -/
  | closing
  /-- It stands between two expressions. -/
  | bar
  /-- How often the expression in front of it is repeated. -/
  | repetition (least : Nat) (most : Option Nat)
  /-- How often nothing is repeated, by the name of the sign. -/
  | idle (name : String)
  /-- What has been remembered under a number. -/
  | again (number : Nat)
  deriving DecidableEq, Repr

/-- A place that is a character in a class or, if `negated`, one that is not. -/
def classPlace (negated : Bool) : Sign :=
  .place (.listed negated [.named "alnum", .range '_' '_'])

/-- A place that is white space or, if `negated`, none. -/
def spacePlace (negated : Bool) : Sign := .place (.listed negated [.named "space"])

/-- The place that a list stands for. If the line has rows, what is not listed does not include
their ends. -/
def Dialect.listed (dialect : Dialect) (negated : Bool) (items : List Listed) : Sign :=
  .place (.listed negated
    (if negated && dialect.byRows then .range '\n' '\n' :: items else items))

/-- A place that is any character. -/
def Dialect.anyPlace (dialect : Dialect) : Sign :=
  .place (if dialect.byRows then .listed true [.range '\n' '\n'] else .any)

/-- How braces with a number of repetitions are called. -/
def braceName : String := "\x7b...\x7d"

/-- Whether a sign is a mark of repetition with nothing in front of it. -/
def isIdleMark : Option Sign → Bool
  | some (.idle name) => name ≠ braceName
  | _ => false

/-- Whether a group, an expression between bars or the whole one begins behind a sign. -/
def beginsRow : Option Sign → Bool
  | none | some .opening | some .bar => true
  | front => isIdleMark front

/-- Whether nothing that can be repeated is behind a sign. -/
def beginsExpression : Option Sign → Bool
  | some .start | some .finish | some .rowStart | some .rowFinish | some (.edge _) => true
  | front => beginsRow front

/-! ## Repetitions -/

/-- The greatest number of repetitions. -/
def repetitionLimit : Nat := 32767

/-- A number between braces. -/
inductive Count where
  /-- There is none. -/
  | absent
  /-- It is no number. -/
  | bad
  /-- The number. -/
  | number (value : Nat)

/-- How a number between braces ends. -/
inductive CountEnd where
  /-- A comma is behind it. -/
  | comma
  /-- A brace is behind it. -/
  | brace
  /-- Nothing is behind it. -/
  | nothing
  deriving DecidableEq

/-- The number at the head of a text that goes on behind some characters, how it ends, and what is
behind it. -/
def countAt (extended : Bool) (front : Octets) : Octets → Count × CountEnd × Octets
  | [] => (.bad, .nothing, [])
  | '\\' :: '\x7d' :: rest =>
    if extended then countAt extended ('\x7d' :: front) rest else (count front, .brace, rest)
  | character :: rest =>
    if character = ',' then (count front, .comma, rest)
    else if character = '\x7d' && extended then (count front, .brace, rest)
    else countAt extended (character :: front) rest
where
  /-- The number that characters are, the last one first. -/
  count (front : Octets) : Count :=
    if front.isEmpty then .absent
    else if front.all Char.isDigit then .number (digitsValue 10 front.reverse)
    else .bad

/-- Why a number of repetitions is refused. -/
inductive BraceFault where
  /-- It is none. -/
  | bad (fault : RegularFault)
  /-- The brace stands for itself, where that is possible. -/
  | plain (fault : RegularFault)

/-- The number of repetitions behind an opening brace, and what is behind it. -/
def braced (extended : Bool) (text : Octets) :
    Except BraceFault (Nat × Option Nat × Octets) := do
  let unclosed := fun (ending : CountEnd) =>
    BraceFault.plain (if ending = .nothing then .openRepetition else .badRepetition)
  let (least, ending, rest) := countAt extended [] text
  let least ← match least with
    | .number value => pure value
    | .absent => if ending = .comma then pure 0 else throw (.bad .badRepetition)
    | .bad => throw (unclosed ending)
  let (most, ending, rest) ← match ending with
    | .comma =>
      match countAt extended [] rest with
      | (.number value, ending, rest) => pure (some value, ending, rest)
      | (.absent, ending, rest) => pure (none, ending, rest)
      | (.bad, ending, _) => throw (unclosed ending)
    | ending => pure (some least, ending, rest)
  if most.any (· < least) || ending ≠ .brace then throw (.bad .badRepetition)
  else if repetitionLimit < most.getD least then throw (.bad .tooBig)
  else return (least, most, rest)

/-- The sign that a mark of repetition is behind another sign, and what is behind it. -/
def Dialect.repeats (dialect : Dialect) (front : Option Sign) (mark : Char) (least : Nat)
    (most : Option Nat) (rest : Octets) : Except RegularFault (Sign × Octets) :=
  if beginsExpression front then
    if !dialect.extended then .ok (.place (.octet mark), rest)
    else if dialect.strict then .error .badPreceding
    else .ok (.idle (String.singleton mark), rest)
  else if mark = '*' && dialect.strict && !dialect.extended && front matches some (.repetition ..)
  then .error .badPreceding
  else .ok (.repetition least most, rest)

/-- The sign that an opening brace with a meaning is behind another sign, and what is behind it. -/
def Dialect.brace (dialect : Dialect) (front : Option Sign) (rest : Octets) :
    Except RegularFault (Sign × Octets) :=
  let literal : Except RegularFault (Sign × Octets) := .ok (.place (.octet '\x7b'), rest)
  let again := !dialect.extended && front matches some (.repetition ..)
  if dialect.strict && (beginsExpression front || again) then .error .badPreceding
  else if beginsExpression front && !dialect.extended then literal
  else
    match braced dialect.extended rest with
    | .ok (least, most, behind) =>
      .ok (if beginsExpression front then .idle braceName else .repetition least most, behind)
    | .error (.bad fault) => if beginsExpression front then literal else .error fault
    | .error (.plain fault) =>
      if dialect.extended && !dialect.strict then literal else .error fault

/-! ## Reading -/

/-- The sign that a character behind a backslash stands for, and what is behind it. -/
def Dialect.escaped (dialect : Dialect) (front : Option Sign) (character : Char) (rest : Octets) :
    Except RegularFault (Sign × Octets) :=
  let literal : Except RegularFault (Sign × Octets) := .ok (.place (.octet character), rest)
  let meant := fun (sign : Sign) => if dialect.extended then literal else .ok (sign, rest)
  match character with
  | '(' => meant .opening
  | ')' => meant .closing
  | '|' => meant .bar
  | '+' => if dialect.extended then literal else dialect.repeats front '+' 1 none rest
  | '?' => if dialect.extended then literal else dialect.repeats front '?' 0 (some 1) rest
  | '\x7b' => if dialect.extended then literal else dialect.brace front rest
  | 'w' => .ok (classPlace false, rest)
  | 'W' => .ok (classPlace true, rest)
  | 's' => .ok (spacePlace false, rest)
  | 'S' => .ok (spacePlace true, rest)
  | 'b' => .ok (.edge .either, rest)
  | 'B' => .ok (.edge .neither, rest)
  | '<' => .ok (.edge .start, rest)
  | '>' => .ok (.edge .finish, rest)
  | '\x60' => .ok (.start, rest)
  | '\'' => .ok (.finish, rest)
  | character =>
    if character.isDigit && character ≠ '0' then .ok (.again (character.toNat - '0'.toNat), rest)
    else literal

/-- The next sign behind another one, within some groups, and what is behind it. -/
def Dialect.next (dialect : Dialect) (groups : Nat) (front : Option Sign) (character : Char)
    (rest : Octets) : Except RegularFault (Sign × Octets) :=
  let literal : Except RegularFault (Sign × Octets) := .ok (.place (.octet character), rest)
  let meant := fun (active : Bool) (sign : Sign) => if active then .ok (sign, rest) else literal
  let starts := beginsRow front || (dialect.strict && beginsExpression front)
  match character with
  | '\\' =>
    match rest with
    | [] => .error .openEscape
    | next :: behind => dialect.escaped front next behind
  | '.' => .ok (dialect.anyPlace, rest)
  | '[' =>
    (bracketed rest).map fun (negated, items, behind) => (dialect.listed negated items, behind)
  | '*' => dialect.repeats front '*' 0 none rest
  | '^' => meant (dialect.extended || starts) (if dialect.byRows then .rowStart else .start)
  | '$' =>
    let ends := rest.isEmpty || "\\)".toList.isPrefixOf rest || "\\|".toList.isPrefixOf rest
    meant (dialect.extended || ends) (if dialect.byRows then .rowFinish else .finish)
  | '(' => meant dialect.extended .opening
  | ')' =>
    let closes := (0 < groups || dialect.strict) && !isIdleMark front
    meant (dialect.extended && closes) .closing
  | '|' => meant dialect.extended .bar
  | '+' => if dialect.extended then dialect.repeats front '+' 1 none rest else literal
  | '?' => if dialect.extended then dialect.repeats front '?' 0 (some 1) rest else literal
  | '\x7b' => if dialect.extended then dialect.brace front rest else literal
  | _ => literal

/-- What is odd in a regular expression. -/
inductive Oddity where
  /-- A sign repeats nothing. -/
  | idle (name : String)
  /-- A list looks like the name of a class of characters. -/
  | bareClass
  deriving DecidableEq, Repr

/-- How something odd is reported. -/
def Oddity.message : Oddity → String
  | .idle name => name ++ " at start of expression"
  | .bareClass => "character class syntax is [[:space:]], not [:space:]"

/-- An expression that is being read. -/
structure Reading where
  /-- What is behind the last bar, and the pieces in front of it that can still be repeated. -/
  row : List Regular
  /-- The expressions in front of the last bar. -/
  others : List Regular
  /-- The number of the group, if it is one. -/
  group : Nat
  /-- The groups that are closed in front of it. -/
  closed : List Nat
  /-- The groups that are closed in front of the last bar. -/
  gathered : List Nat

/-- The expression that has been read. -/
def Reading.expression (reading : Reading) : Regular :=
  let row := fun (pieces : List Regular) =>
    match pieces with
    | [] => Regular.empty
    | last :: front => front.foldl (fun behind piece => .sequence piece behind) last
  reading.others.foldl (fun behind other => .either other behind) (row reading.row)

/-- The expressions that are being read. -/
structure Readings where
  /-- Those of the groups that are open, the inmost one first. -/
  nested : List Reading
  /-- How many groups have been opened. -/
  count : Nat
  /-- The groups that are closed. -/
  closed : List Nat
  /-- What is odd, the last one first. -/
  odd : List Oddity

/-- Whether an expression only says where a match is. -/
def isAnchor : Regular → Bool
  | .start | .finish | .rowStart | .rowFinish | .edge _ => true
  | _ => false

/-- Goes on with a sign. -/
def Readings.read (readings : Readings) (sign : Sign) : Except RegularFault Readings :=
  match readings.nested with
  | [] => .error .closedGroup
  | inmost :: outer =>
    let add := fun (expression : Regular) =>
      Except.ok { readings with nested := { inmost with row := expression :: inmost.row } :: outer }
    match sign with
    | .place accepted => add (.place accepted)
    | .start => add .start
    | .finish => add .finish
    | .rowStart => add .rowStart
    | .rowFinish => add .rowFinish
    | .edge kind => add (.edge kind)
    | .again number =>
      if readings.closed.contains number then add (.again number) else .error .noGroup
    | .repetition least most =>
      match inmost.row with
      | last :: row =>
        let row := .repeated last least most :: row
        .ok { readings with nested := { inmost with row } :: outer }
      | [] => .ok readings
    | .idle name =>
      let odd := if inmost.row.all isAnchor then [Oddity.idle name] else []
      .ok { readings with odd := odd ++ readings.odd }
    | .bar =>
      let before := Reading.expression { inmost with others := [] }
      let gathered := readings.closed ++ inmost.gathered
      let inmost := { inmost with row := [], others := before :: inmost.others, gathered }
      .ok { readings with nested := inmost :: outer, closed := inmost.closed }
    | .opening =>
      let number := readings.count + 1
      let nested := ⟨[], [], number, readings.closed, []⟩ :: inmost :: outer
      .ok { readings with nested, count := number }
    | .closing =>
      match outer with
      | [] => .error .closedGroup
      | next :: more =>
        let group := Regular.group inmost.group inmost.expression
        let closed := inmost.group :: (readings.closed ++ inmost.gathered)
        .ok { readings with nested := { next with row := group :: next.row } :: more, closed }

/-- Reads the signs of a text behind another sign, at most `fuel` of them. -/
def Readings.readAll (dialect : Dialect) :
    Nat → Readings → Option Sign → Octets → Except RegularFault Readings
  | 0, readings, _, _ | _, readings, _, [] => .ok readings
  | fuel + 1, readings, front, character :: rest => do
    let (sign, behind) ← dialect.next (readings.nested.length - 1) front character rest
    let readings ← readings.read sign
    let odd := if character = '[' && looksNamed rest then [Oddity.bareClass] else []
    let readings := { readings with odd := odd ++ readings.odd }
    Readings.readAll dialect fuel readings (some sign) behind

/-- Reads a regular expression, and tells what is odd in it. -/
def read (dialect : Dialect) (text : Octets) : Except RegularFault (Regular × List Oddity) := do
  let readings ← Readings.readAll dialect text.length ⟨[⟨[], [], 0, [], []⟩], 0, [], []⟩ none text
  match readings.nested with
  | [whole] => return (whole.expression, readings.odd.reverse)
  | _ => throw .openGroup

/-- Reads a **regular expression**. -/
def parse (dialect : Dialect) (text : Octets) : Except RegularFault Regular :=
  (read dialect text).map Prod.fst

end Regular

end Shell

end CallForest
