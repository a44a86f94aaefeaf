import CallForest.Decimal.Binary64
import CallForest.Shell.Numeral

/-! # Conversions of formats

A conversion writes an integer, a number with a fraction or a text in a field that has a least
width. A precision is the least number of digits of an integer, the number of places behind a point,
or the greatest length of a text.

* `Shell.Conversion`: how something is written.
* `Shell.Conversion.integer`, `Shell.Conversion.natural`: integers.
* `Shell.Conversion.quotient`, `Shell.Conversion.fraction`: numbers with a fraction.
* `Shell.Conversion.text`: texts. -/

namespace CallForest

namespace Shell

/-- How something is written. -/
structure Conversion where
  /-- The flags. -/
  flags : List Char
  /-- The least width. -/
  width : Nat
  /-- The precision. -/
  precision : Option Nat
  /-- The letter that says what is written. -/
  letter : Char
  deriving DecidableEq, Repr

namespace Conversion

/-- Whether a flag is set. -/
def has (conversion : Conversion) (flag : Char) : Bool := conversion.flags.contains flag

/-- A text in a field of the width, with blanks beside it. -/
def pad (conversion : Conversion) (text : Octets) : Octets :=
  let blanks := List.replicate (conversion.width - text.length) ' '
  if conversion.has '-' then text ++ blanks else blanks ++ text

/-- A number in a field of the width, with blanks beside it or with zeros behind its sign. -/
def padNumber (conversion : Conversion) (zeros : Bool) (sign digits : Octets) : Octets :=
  if zeros && conversion.has '0' && !conversion.has '-' then
    let missing := conversion.width - (sign.length + digits.length)
    sign ++ List.replicate missing '0' ++ digits
  else conversion.pad (sign ++ digits)

/-- The sign in front of a number. -/
def sign (conversion : Conversion) (negative : Bool) : Octets :=
  if negative then ['-']
  else if conversion.has '+' then ['+']
  else if conversion.has ' ' then [' ']
  else []

/-- Digits with zeros in front of them, as many as the precision asks for. -/
def atLeast (conversion : Conversion) (digits : Octets) : Octets :=
  match conversion.precision with
  | none => digits
  | some 0 => if digits = ['0'] then [] else digits
  | some least => List.replicate (least - digits.length) '0' ++ digits

/-- A **text**. -/
def text (conversion : Conversion) (value : Octets) : Octets :=
  conversion.pad (conversion.precision.elim value value.take)

/-- An **integer**. -/
def integer (conversion : Conversion) (value : Int) : Octets :=
  conversion.padNumber conversion.precision.isNone (conversion.sign (value < 0))
    (conversion.atLeast (Octets.ofNat value.natAbs))

/-- A **natural number** in the radix of the letter. -/
def natural (conversion : Conversion) (value : Nat) : Octets :=
  let (radix, mark) :=
    match conversion.letter with
    | 'o' => (8, ['0'])
    | 'x' => (16, ['0', 'x'])
    | 'X' => (16, ['0', 'X'])
    | _ => (10, [])
  let digits := Nat.toDigits radix value
  let digits := if conversion.letter = 'X' then digits.map Char.toUpper else digits
  let digits := conversion.atLeast digits
  let mark := if !conversion.has '#' || value = 0 then [] else mark
  if radix = 8 then
    let mark := if digits.head? = some '0' then [] else mark
    conversion.padNumber conversion.precision.isNone [] (mark ++ digits)
  else conversion.padNumber conversion.precision.isNone mark digits

/-! ## Fractions -/

/-- The digits of a quotient with some places behind the point, and the point if `pointed`. -/
def places (pointed : Bool) (count numerator denominator : Nat) : Octets :=
  let units := Binary64.roundDivision (numerator * Nat.pow 10 count) denominator
  let digits := Nat.toDigits 10 units
  let digits := List.replicate (count + 1 - digits.length) '0' ++ digits
  let whole := digits.take (digits.length - count)
  if count = 0 then whole ++ (if pointed then ['.'] else [])
  else whole ++ '.' :: digits.drop (digits.length - count)

/-- The exponent of ten of a positive quotient, found among some that lie close together. -/
def exponentOfTen (numerator denominator : Nat) : Int :=
  let reaches := fun (exponent : Int) =>
    if 0 ≤ exponent then decide (denominator * Nat.pow 10 exponent.toNat ≤ numerator)
    else decide (denominator ≤ numerator * Nat.pow 10 (-exponent).toNat)
  let estimate : Int :=
    ((Nat.toDigits 10 numerator).length : Int) - (Nat.toDigits 10 denominator).length
  if reaches estimate then estimate else estimate - 1

/-- A quotient divided by a power of ten. -/
def scaleDown (exponent : Int) (numerator denominator : Nat) : Nat × Nat :=
  if 0 ≤ exponent then (numerator, denominator * Nat.pow 10 exponent.toNat)
  else (numerator * Nat.pow 10 (-exponent).toNat, denominator)

/-- The exponent and the digits in front of it of a quotient with some places behind the point. -/
def scientific (pointed : Bool) (count numerator denominator : Nat) : Int × Octets :=
  if numerator = 0 then (0, places pointed count 0 1)
  else
    let exponent := exponentOfTen numerator denominator
    let (top, bottom) := scaleDown exponent numerator denominator
    let digits := places pointed count top bottom
    if digits.take 2 = ['1', '0'] then
      let (top, bottom) := scaleDown (exponent + 1) numerator denominator
      (exponent + 1, places pointed count top bottom)
    else (exponent, digits)

/-- An exponent with its sign and at least two digits. -/
def exponentText (upper : Bool) (exponent : Int) : Octets :=
  let digits := Octets.ofNat exponent.natAbs
  (if upper then 'E' else 'e') :: (if exponent < 0 then '-' else '+') ::
    (List.replicate (2 - digits.length) '0' ++ digits)

/-- Digits without the zeros at the end of their places. -/
def withoutZeros (digits : Octets) : Octets :=
  if digits.contains '.' then
    let short := (digits.reverse.dropWhile (· = '0')).reverse
    if short.getLast? = some '.' then short.dropLast else short
  else digits

/-- A **quotient** with a sign. -/
def quotient (conversion : Conversion) (negative : Bool) (numerator denominator : Nat) : Octets :=
  let upper := conversion.letter.isUpper
  let pointed := conversion.has '#'
  let count := conversion.precision.getD 6
  let digits :=
    match conversion.letter.toLower with
    | 'f' => places pointed count numerator denominator
    | 'e' =>
      let (exponent, digits) := scientific pointed count numerator denominator
      digits ++ exponentText upper exponent
    | _ =>
      let count := max 1 count
      let (exponent, digits) := scientific pointed (count - 1) numerator denominator
      let tidy := fun (digits : Octets) => if pointed then digits else withoutZeros digits
      if exponent < -4 || (count : Int) ≤ exponent then tidy digits ++ exponentText upper exponent
      else tidy (places pointed ((count : Int) - 1 - exponent).toNat numerator denominator)
  conversion.padNumber true (conversion.sign negative) digits

/-- A **number with a fraction**, given by its sign and its magnitude. -/
def fraction (conversion : Conversion) (negative : Bool) (magnitude : Nat) : Octets :=
  if !Binary64.isFinite magnitude then
    let name := if magnitude = Binary64.infinity then "inf" else "nan"
    let name := if conversion.letter.isUpper then name.toUpper else name
    conversion.pad (conversion.sign negative ++ name.toList)
  else
    let (m, q) := Binary64.scale magnitude
    let (numerator, denominator) := Binary64.asQuotient m q
    conversion.quotient negative numerator denominator

end Conversion

/-- The sign and the magnitude of the number with a fraction that a text begins with, and what is
behind it. -/
def leadingFraction (text : Octets) : Bool × Nat × Octets :=
  let start := text.dropWhile isSpace
  let (negative, unsigned) :=
    match start with
    | '-' :: rest => (true, rest)
    | '+' :: rest => (false, rest)
    | rest => (false, rest)
  let whole := unsigned.takeWhile Char.isDigit
  let behind := unsigned.drop whole.length
  let (places, behind) :=
    match behind with
    | '.' :: rest =>
      let places := rest.takeWhile Char.isDigit
      if whole.isEmpty && places.isEmpty then ([], behind) else (places, rest.drop places.length)
    | rest => ([], rest)
  let digits := whole ++ places
  let lower := (unsigned.take 3).map Char.toLower
  if digits.isEmpty then
    if lower = "inf".toList then
      let long := (unsigned.take 8).map Char.toLower = "infinity".toList
      (negative, Binary64.infinity, unsigned.drop (if long then 8 else 3))
    else if lower = "nan".toList then (negative, Binary64.notANumber, unsigned.drop 3)
    else (false, Binary64.zero, text)
  else
    let (exponent, rest) :=
      match behind with
      | letter :: rest =>
        let numeral := leadingNumeral false rest
        let spaced := rest.head?.any isSpace
        if (letter = 'e' || letter = 'E') && numeral.found && !spaced then
          (numeral.value, numeral.rest)
        else ((0 : Int), behind)
      | [] => ((0 : Int), [])
    let value := digitsValue 10 digits
    (negative, Binary64.ofDecimal value digits.length (exponent - places.length), rest)

end Shell

end CallForest
