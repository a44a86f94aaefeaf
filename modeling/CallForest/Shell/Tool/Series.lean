import CallForest.Shell.Conversion
import CallForest.Shell.Tool.Basic

/-! # Series of numbers

* `Shell.Tool.Term`: decimal numbers of a series.
* `Shell.Tool.seq`: prints numbers in a row. -/

namespace CallForest

namespace Shell

namespace Tool

/-! ## Numbers -/

/-- A decimal number of a series. -/
structure Term where
  /-- The number without its point. -/
  digits : Int
  /-- How many digits are behind the point. -/
  places : Nat
  /-- How many characters it is written with. -/
  width : Nat

/-- The number that a word is. -/
def Term.read? (word : Octets) : Option Term :=
  let word := word.dropWhile isSpace
  let (negative, plus, unsigned) := match word with
    | '-' :: rest => (true, false, rest)
    | '+' :: rest => (false, true, rest)
    | rest => (false, false, rest)
  let whole := unsigned.takeWhile Char.isDigit
  let (pointed, places, behind) := match unsigned.drop whole.length with
    | '.' :: rest => (true, rest.takeWhile Char.isDigit, rest.dropWhile Char.isDigit)
    | rest => (false, [], rest)
  let size := word.length - (if plus then 1 else 0)
  let size := if pointed && places.isEmpty then size - 1 else size
  let size := if whole.isEmpty && pointed then size + 1 else size
  let value : Int := digitsValue 10 (whole ++ places)
  let value := if negative then -value else value
  if whole.isEmpty && places.isEmpty then none
  else
    match behind with
    | [] => some ⟨value, places.length, size⟩
    | letter :: rest =>
      let numeral := leadingNumeral false rest
      let spaced := rest.head?.any isSpace
      if (letter = 'e' || letter = 'E') && numeral.found && numeral.rest.isEmpty && !spaced then
        let exponent := max (-400) (min 400 numeral.value)
        let shift := exponent - places.length
        some ⟨if 0 ≤ shift then value * Nat.pow 10 shift.toNat else value, (-shift).toNat, size⟩
      else none

/-- The number without its point, if as many digits are behind the point. -/
def Term.scaled (term : Term) (places : Nat) : Int :=
  term.digits * Nat.pow 10 (places - term.places)

/-- A number written with some digits behind the point. -/
def pointedText (places : Nat) (value : Int) : Octets :=
  let digits := Octets.ofNat value.natAbs
  let digits := List.replicate (places + 1 - digits.length) '0' ++ digits
  let whole := digits.take (digits.length - places)
  (if value < 0 then ['-'] else []) ++ whole ++
    if places = 0 then [] else '.' :: digits.drop (digits.length - places)

/-- A number with zeros between its sign and its digits. -/
def widened (width : Nat) (text : Octets) : Octets :=
  let zeros := List.replicate (width - text.length) '0'
  match text with
  | '-' :: digits => '-' :: zeros ++ digits
  | digits => zeros ++ digits

/-! ## Formats -/

/-- A format with one conversion. -/
structure TermFormat where
  /-- What is in front of the conversion. -/
  front : Octets
  /-- The conversion. -/
  conversion : Conversion
  /-- What is behind it. -/
  behind : Octets

/-- A text up to a percent sign that is not doubled, and what is behind it. -/
def untilPercent : Octets → Octets × Option Octets
  | [] => ([], none)
  | '%' :: '%' :: rest => let (front, behind) := untilPercent rest; ('%' :: front, behind)
  | '%' :: rest => ([], some rest)
  | first :: rest => let (front, behind) := untilPercent rest; (first :: front, behind)

/-- The format that a word is, or why it is none. -/
def TermFormat.read (word : Octets) : Except Octets TermFormat := do
  let about := "format ".toList ++ quoted word
  match untilPercent word with
  | (_, none) => throw (about ++ " has no % directive".toList)
  | (front, some rest) =>
    let flags := rest.takeWhile ['-', '+', '#', '0', ' ', '\''].contains
    let rest := rest.drop flags.length
    let width := rest.takeWhile Char.isDigit
    let (precision, rest) := match rest.drop width.length with
      | '.' :: more =>
        let digits := more.takeWhile Char.isDigit
        (some (digitsValue 10 digits), more.drop digits.length)
      | more => (none, more)
    let rest := if rest.head? = some 'L' then rest.tail else rest
    match rest with
    | [] => throw (about ++ " ends in %".toList)
    | letter :: rest =>
      if !("efgaEFGA".toList.contains letter) then
        throw (about ++ " has unknown %".toList ++ [letter] ++ " directive".toList)
      else
        match untilPercent rest with
        | (behind, none) =>
          return ⟨front, ⟨flags, digitsValue 10 width, precision, letter⟩, behind⟩
        | _ => throw (about ++ " has too many % directives".toList)

/-- A number in a format. -/
def TermFormat.text (format : TermFormat) (places : Nat) (value : Int) : Octets :=
  let digits := format.conversion.quotient (value < 0) value.natAbs (Nat.pow 10 places)
  format.front ++ digits ++ format.behind

/-! ## Series -/

/-- What is asked of a series. -/
structure SeriesRequest where
  /-- What is between the numbers. -/
  separator : Octets
  /-- Whether all numbers are equally wide. -/
  wide : Bool
  /-- The format, if there is one. -/
  format : Option Octets
  /-- The numbers. -/
  terms : List Octets

/-- How series are asked for. -/
def seqUsage : Usage where
  plain := ['w']
  valued := ['f', 's']
  long := [("equal-width", 'w'), ("format", 'f'), ("separator", 's')]

/-- Reads the options of a series, which end at the first word that is a number, at most `fuel` of
them. -/
def readSeries : Nat → List Octets → SeriesRequest → Except UsageFault SeriesRequest
  | 0, words, request => .ok { request with terms := words }
  | fuel + 1, words, request =>
    let apply := fun (request : SeriesRequest) ((option, value) : Char × Option Octets) =>
      match option, value with
      | 's', some text => { request with separator := text }
      | 'f', some text => { request with format := some text }
      | _, _ => { request with wide := true }
    match words with
    | ['-', '-'] :: rest => .ok { request with terms := rest }
    | ('-' :: '-' :: word) :: rest => do
      let (option, rest) ← seqUsage.longOption word rest
      readSeries fuel rest (apply request option)
    | ('-' :: letter :: letters) :: rest =>
      if letter.isDigit || letter = '.' then .ok { request with terms := words }
      else do
        let (options, rest) ← (seqUsage.letters (letter :: letters) rest).mapError .letter
        readSeries fuel rest (options.foldl apply request)
    | words => .ok { request with terms := words }

/-- How many numbers a series has at most. -/
def seriesLimit : Nat := 1000000

/-- Prints the numbers from one to another. -/
def printSeries (request : SeriesRequest) (format : Option TermFormat) (first step last : Term) :
    ShellM Nat := do
  let places := max first.places step.places
  let common := max places last.places
  let (start, stride, limit) := (first.scaled common, step.scaled common, last.scaled common)
  let count :=
    if (limit - start) * stride < 0 then 0 else ((limit - start) / stride).toNat + 1
  let widthOf := fun (term : Term) (places : Nat) =>
    term.width + (places - term.places) + (if term.places = 0 && 0 < places then 1 else 0)
  let lastWidth :=
    if places < last.places then
      last.width - (last.places - places) - (if places = 0 then 1 else 0)
    else widthOf last places
  let width := if request.wide then max (widthOf first places) lastWidth else 0
  let shown := (List.range (min count seriesLimit)).map fun (place : Nat) =>
    let value := start + stride * (place : Int)
    match format with
    | some format => format.text common value
    | none => widened width (pointedText places (value / Nat.pow 10 (common - places)))
  print (if shown.isEmpty then [] else request.separator.intercalate shown ++ ['\n'])
  return 0

/-- Prints the series that is asked for. -/
def runSeries (name : Octets) (request : SeriesRequest) : ShellM Nat := do
  match request.terms, request.terms.drop 3 with
  | [], _ => lacksOperand name
  | _, extra :: _ => extraOperand name extra
  | words, [] =>
    match request.format.mapM TermFormat.read with
    | .error text =>
      report name text
      return 1
    | .ok format =>
      if format.isSome && request.wide then
        misuse name
          "format string may not be specified when printing equal width strings".toList 1
      else
        match words.find? fun word => (Term.read? word).isNone with
        | some word =>
          misuse name ("invalid floating point argument: ".toList ++ quoted word) 1
        | none =>
          let one : Term := ⟨1, 0, 1⟩
          let terms := words.filterMap Term.read?
          match terms with
          | [last] => printSeries request format one one last
          | [first, last] => printSeries request format first one last
          | [first, step, last] =>
            if step.digits = 0 then
              misuse name ("invalid Zero increment value: ".toList ++ quoted (words.getD 1 [])) 1
            else printSeries request format first step last
          | _ => return 1

/-- Prints **numbers in a row**. -/
def seq : Tool := fun words => do
  let name := words.headD []
  match readSeries (words.length + 1) words.tail ⟨['\n'], false, none, []⟩ with
  | .error fault => misuse name fault.text 1
  | .ok request => runSeries name request

end Tool

end Shell

end CallForest
