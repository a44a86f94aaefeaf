import CallForest.Text.Octets

/-! # Numerals of shell scripts

Integers are written in decimal; where a radix may be named, a zero in front means octal digits, and
`0x` and `0b` mean hexadecimal and binary ones. An integer is held in 64 bits.

* `Shell.Numeral`, `Shell.leadingNumeral`: the integer that a text begins with.
* `Shell.integer?`: the integer that a text is.
* `Shell.wrap`: integers in 64 bits. -/

namespace CallForest

namespace Shell

/-- Whether a character is white space. -/
def isSpace (character : Char) : Bool :=
  character = ' ' || (9 ≤ character.toNat && character.toNat ≤ 13)

/-- The value of a digit, if there is a digit of this value in the radix. -/
def digit? (radix : Nat) (character : Char) : Option Nat :=
  let value :=
    if character.isDigit then character.toNat - '0'.toNat
    else if character.isAlpha then character.toLower.toNat - 'a'.toNat + 10
    else radix
  if value < radix then some value else none

/-- The number that digits write. -/
def digitsValue (radix : Nat) (digits : Octets) : Nat :=
  digits.foldl (fun value digit => value * radix + (digit? radix digit).getD 0) 0

/-- The digits at the head of a text, and what is behind them. -/
def digitsOf (radix : Nat) (text : Octets) : Octets × Octets :=
  text.span fun character => (digit? radix character).isSome

/-- An integer that a text begins with. -/
structure Numeral where
  /-- Its value, however great. -/
  value : Int
  /-- Whether there is any digit. -/
  found : Bool
  /-- What is behind it. -/
  rest : Octets
  deriving DecidableEq, Repr

/-- The number at the head of a text whose radix may be named. -/
def namedRadix (text : Octets) : Nat × Octets × Octets :=
  let named := fun (radix : Nat) (rest : Octets) =>
    let (digits, behind) := digitsOf radix rest
    if digits.isEmpty then (8, ['0'], text.drop 1) else (radix, digits, behind)
  match text with
  | '0' :: 'x' :: rest | '0' :: 'X' :: rest => named 16 rest
  | '0' :: 'b' :: rest | '0' :: 'B' :: rest => named 2 rest
  | '0' :: _ => (8, digitsOf 8 text)
  | _ => (10, digitsOf 10 text)

/-- The **integer that a text begins with**, behind white space and a sign. -/
def leadingNumeral (radixNamed : Bool) (text : Octets) : Numeral :=
  let text := text.dropWhile isSpace
  let (negative, unsigned) :=
    match text with
    | '-' :: rest => (true, rest)
    | '+' :: rest => (false, rest)
    | rest => (false, rest)
  let (radix, digits, rest) :=
    if radixNamed then namedRadix unsigned else (10, digitsOf 10 unsigned)
  let value : Int := digitsValue radix digits
  ⟨if negative then -value else value, !digits.isEmpty, rest⟩

/-- The greatest integer. -/
def greatest : Int := 9223372036854775807

/-- The least integer. -/
def least : Int := -9223372036854775808

/-- An integer in 64 bits. -/
def wrap (value : Int) : Int := Int.bmod value 18446744073709551616

/-- The nearest integer that 64 bits hold. -/
def saturate (value : Int) : Int := max least (min greatest value)

/-- The **integer that a text is**, with white space around it. An empty text is zero where a radix
may be named. -/
def integer? (radixNamed : Bool) (text : Octets) : Option Int :=
  let numeral := leadingNumeral radixNamed text
  let rest := if numeral.found then numeral.rest else text
  if numeral.value < least || greatest < numeral.value then none
  else if !numeral.found && !radixNamed then none
  else if rest.all isSpace then some (if numeral.found then numeral.value else 0)
  else none

/-- The number that a text is, with white space around it, if it is not negative and 31 bits hold
it. -/
def number? (text : Octets) : Option Nat :=
  match integer? false text with
  | some (.ofNat number) => if number < 2147483648 then some number else none
  | _ => none

end Shell

end CallForest
