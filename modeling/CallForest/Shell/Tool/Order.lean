import CallForest.Shell.Numeral

/-! # Orders of texts

Texts can be ordered character by character, as numbers, as names of months or as names of versions.

* `Shell.Order.compareOctets`: character by character.
* `Shell.Order.compareDecimals`, `Shell.Order.compareScaled`: as decimal numbers, with a unit.
* `Shell.Order.compareFractions`: as numbers with an exponent.
* `Shell.Order.month`: as months.
* `Shell.Order.compareVersions`: as names of versions. -/

namespace CallForest

namespace Shell

namespace Order

/-- The order of two texts, character by character. -/
def compareOctets : Octets → Octets → Ordering
  | [], [] => .eq
  | [], _ => .lt
  | _, [] => .gt
  | first :: rest, other :: others =>
    (compareOfLessAndEq first.toNat other.toNat).then (compareOctets rest others)

/-- Whether a character is a blank in a line. -/
def isBlank (character : Char) : Bool :=
  character = ' ' || character = '\t' || character = '\n'

/-! ## Numbers -/

/-- A decimal number that a text begins with. -/
structure Decimal where
  /-- Whether it is below zero. -/
  negative : Bool
  /-- What is in front of the point. -/
  whole : Nat
  /-- The digits behind the point, without zeros at their end. -/
  places : Octets

/-- The decimal number that a text begins with, and what is behind it. Without one it is zero. -/
def leadingDecimal (text : Octets) : Decimal × Octets :=
  let text := text.dropWhile isBlank
  let (negative, digits) := match text with
    | '-' :: rest => (true, rest)
    | rest => (false, rest)
  let whole := digits.takeWhile Char.isDigit
  let (places, behind) := match digits.drop whole.length with
    | '.' :: rest => (rest.takeWhile Char.isDigit, rest.dropWhile Char.isDigit)
    | rest => ([], rest)
  let value := digitsValue 10 whole
  let places := (places.reverse.dropWhile (· = '0')).reverse
  (⟨negative && !(value = 0 && places.isEmpty), value, places⟩, behind)

/-- The order of two decimal numbers. -/
def Decimal.compare (left right : Decimal) : Ordering :=
  let order := (compareOfLessAndEq left.whole right.whole).then
    (compareOctets left.places right.places)
  match left.negative, right.negative with
  | false, false => order
  | true, true => order.swap
  | true, false => .lt
  | false, true => .gt

/-- The order of the **decimal numbers** that two texts begin with. -/
def compareDecimals (left right : Octets) : Ordering :=
  (leadingDecimal left).1.compare (leadingDecimal right).1

/-- The power that the unit behind a number has. -/
def unitPower (text : Octets) : Int :=
  let (value, behind) := leadingDecimal text
  if value.whole = 0 && value.places.isEmpty then 0
  else
    let units := "KMGTPEZYRQ".toList
    let power := match behind with
      | 'k' :: _ => 1
      | unit :: _ => (units.idxOf? unit).elim 0 (· + 1)
      | [] => 0
    if value.negative then -(power : Int) else power

/-- The order of numbers with **units** that two texts begin with: first that of the units. -/
def compareScaled (left right : Octets) : Ordering :=
  (compareOfLessAndEq (unitPower left) (unitPower right)).then (compareDecimals left right)

/-- What a text is worth as a number with an exponent. -/
inductive Worth where
  /-- It is no number. -/
  | none
  /-- It says that it is no number. -/
  | undefined
  /-- It is less than any number. -/
  | least
  /-- It is a number times a power of ten. -/
  | finite (digits : Int) (exponent : Int)
  /-- It is greater than any number. -/
  | greatest

/-- The **worth** of a text. -/
def worth (text : Octets) : Worth :=
  let text := text.dropWhile isSpace
  let (negative, rest) := match text with
    | '-' :: rest => (true, rest)
    | '+' :: rest => (false, rest)
    | rest => (false, rest)
  let whole := rest.takeWhile Char.isDigit
  let (places, behind) := match rest.drop whole.length with
    | '.' :: more => (more.takeWhile Char.isDigit, more.dropWhile Char.isDigit)
    | more => ([], more)
  let name := (rest.take 3).map Char.toLower
  if whole.isEmpty && places.isEmpty then
    if name = "inf".toList then (if negative then .least else .greatest)
    else if name = "nan".toList then .undefined
    else .none
  else
    let numeral := leadingNumeral false behind.tail
    let marked := behind.head? = some 'e' || behind.head? = some 'E'
    let spaced := behind.tail.head?.any isSpace
    let exponent := if marked && numeral.found && !spaced then numeral.value else 0
    let value : Int := digitsValue 10 (whole ++ places)
    .finite (if negative then -value else value)
      (max (-5000) (min 5000 exponent) - places.length)

/-- How far up a worth is, apart from its number. -/
def Worth.rank : Worth → Nat
  | .none => 0
  | .undefined => 1
  | .least => 2
  | .finite .. => 3
  | .greatest => 4

/-- The order of two texts by their **worth**. -/
def compareFractions (left right : Octets) : Ordering :=
  match worth left, worth right with
  | .finite digits exponent, .finite others other =>
    let common := min exponent other
    compareOfLessAndEq (digits * Nat.pow 10 (exponent - common).toNat)
      (others * Nat.pow 10 (other - common).toNat)
  | left, right => compareOfLessAndEq left.rank right.rank

/-! ## Months -/

/-- The names of the months. -/
def months : List String :=
  ["JAN", "FEB", "MAR", "APR", "MAY", "JUN", "JUL", "AUG", "SEP", "OCT", "NOV", "DEC"]

/-- The number of the **month** that a text begins with, and zero if there is none. -/
def month (text : Octets) : Nat :=
  let name := ((text.dropWhile isBlank).take 3).map Char.toUpper
  (months.idxOf? (String.ofList name)).elim 0 (· + 1)

/-! ## Versions -/

/-- The place of a character among those that are no digits in names of versions. -/
def versionRank : Option Char → Int
  | none => -1
  | some character =>
    if character.isDigit then 0
    else if character.isAlpha then character.toNat
    else if character = '~' then -2
    else character.toNat + 256

/-- The order of the pieces without digits that two names begin with, and what is behind them, at
most `fuel` characters. -/
def compareLetters : Nat → Octets → Octets → Ordering × Octets × Octets
  | 0, left, right => (.eq, left, right)
  | fuel + 1, left, right =>
    let isLetter := fun (text : Octets) => text.head?.any fun character => !character.isDigit
    if isLetter left || isLetter right then
      match compareOfLessAndEq (versionRank left.head?) (versionRank right.head?) with
      | .eq => compareLetters fuel left.tail right.tail
      | order => (order, left, right)
    else (.eq, left, right)

/-- The order of two names piece by piece, of which every other one is a number, at most `fuel`
pieces. -/
def comparePieces : Nat → Octets → Octets → Ordering
  | 0, _, _ => .eq
  | fuel + 1, left, right =>
    if left.isEmpty && right.isEmpty then .eq
    else
      match compareLetters (left.length + right.length) left right with
      | (.eq, left, right) =>
        let number := fun (text : Octets) => digitsValue 10 (text.takeWhile Char.isDigit)
        (compareOfLessAndEq (number left) (number right)).then
          (comparePieces fuel (left.dropWhile Char.isDigit) (right.dropWhile Char.isDigit))
      | (order, _, _) => order

/-- Whether a text is a row of endings of a name, each of which begins with a point and a letter, at
most `fuel` of them. -/
def isEndings : Nat → Octets → Bool
  | 0, _ => false
  | fuel + 1, text =>
    match text with
    | [] => true
    | '.' :: first :: rest =>
      (first.isAlpha || first = '~') &&
        isEndings fuel (rest.dropWhile fun character => character.isAlphanum || character = '~')
    | _ => false

/-- A text up to the endings of a name. -/
def cutEndings : Octets → Octets
  | [] => []
  | next :: more =>
    if isEndings (more.length + 2) (next :: more) then [] else next :: cutEndings more

/-- A name without its endings. It keeps its first character. -/
def withoutEndings (name : Octets) : Octets := name.take 1 ++ cutEndings name.tail

/-- The order of two **names of versions**. Names that begin with a point come first, and endings
count only if nothing else makes a difference. -/
def compareVersions (left right : Octets) : Ordering :=
  let rank := fun (text : Octets) =>
    match text with
    | [] => 0
    | ['.'] => 1
    | ['.', '.'] => 2
    | '.' :: _ => 3
    | _ => 4
  (compareOfLessAndEq (rank left) (rank right)).then <|
    let fuel := left.length + right.length + 1
    (comparePieces fuel (withoutEndings left) (withoutEndings right)).then
      (comparePieces fuel left right)

end Order

end Shell

end CallForest
