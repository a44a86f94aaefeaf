import CallForest.Decimal.Binary64

/-! # Shortest decimals

The decimal of a double-precision number: the fewest significant digits that read back as the
number, and of two decimals of that length the nearer. Messages lay the digits out in one of two
ways, which also differ in the choice between two decimals that are equally near.

* `Shortest.Decimal`, `Shortest.decimal`: decimals, and the one of a positive finite magnitude.
* `Shortest.Tie`: the choice between two decimals that are equally near.
* `Shortest.Layout`, `Shortest.Layout.text`: the layouts, and a number as text.
* `Shortest.compact`: positional for moderate exponents, otherwise scientific with a signed
  exponent.
* `Shortest.positional`: positional always. -/

namespace CallForest

namespace Shortest

/-- The decimal `digits · 10 ^ exponent`. -/
structure Decimal where
  /-- The significant digits. -/
  digits : Nat
  /-- The power of ten that the last digit counts. -/
  exponent : Int
  deriving DecidableEq, Repr

/-- A quotient divided by `10 ^ exponent`, as numerator and denominator. -/
def shift (numerator denominator : Nat) (exponent : Int) : Nat × Nat :=
  if 0 ≤ exponent then (numerator, denominator * Nat.pow 10 exponent.toNat)
  else (numerator * Nat.pow 10 (-exponent).toNat, denominator)

/-- The magnitude that a decimal reads back as. -/
def Decimal.magnitude (decimal : Decimal) : Nat :=
  let (numerator, denominator) := shift decimal.digits 1 (-decimal.exponent)
  Binary64.roundQuotient numerator denominator

/-- The first `p` from `start` on with `numerator / denominator < 10 ^ p`, if it is among the next
`fuel` ones. -/
def pointFrom (numerator denominator : Nat) : Nat → Int → Int
  | 0, start => start
  | fuel + 1, start =>
    let (top, bottom) := shift numerator denominator start
    if top < bottom then start else pointFrom numerator denominator fuel (start + 1)

/-- The least `p` with `numerator / denominator < 10 ^ p`. The binary exponent gives it up to a few
steps, as `log₁₀ 2` is about 0.30103. -/
def point (numerator denominator : Nat) : Int :=
  pointFrom numerator denominator 4
    (Int.fdiv (Binary64.exponentOf numerator denominator * 30103) 100000 - 1)

/-- Which of two decimals that are equally near is chosen. -/
inductive Tie where
  /-- The one with the even last digit. -/
  | toEven
  /-- The greater one. -/
  | up
  deriving DecidableEq, Repr

/-- A quotient rounded to the nearest natural number. -/
def Tie.round (tie : Tie) (numerator denominator : Nat) : Nat :=
  match tie with
  | .toEven => Binary64.roundDivision numerator denominator
  | .up => (2 * numerator + denominator) / (2 * denominator)

/-- A neighbour of a magnitude on the grid of `10 ^ exponent` that reads back as it, if there is
one: the nearer of the two if it does. -/
def onGrid? (tie : Tie) (magnitude numerator denominator : Nat) (exponent : Int) : Option Decimal :=
  let (top, bottom) := shift numerator denominator exponent
  let below := top / bottom
  let nearest := tie.round top bottom
  let other := if nearest = below then below + 1 else below
  [⟨nearest, exponent⟩, ⟨other, exponent⟩].find? fun decimal => decimal.magnitude = magnitude

/-- The first decimal that reads back as a magnitude, on the grids of `count` digits and more,
`fuel` grids at most. -/
def search (tie : Tie) (magnitude numerator denominator : Nat) (point : Int) :
    Nat → Nat → Option Decimal
  | 0, _ => none
  | fuel + 1, count =>
    match onGrid? tie magnitude numerator denominator (point - count) with
    | some decimal => some decimal
    | none => search tie magnitude numerator denominator point fuel (count + 1)

/-- A decimal without final zeros, of which at most `fuel` are taken off. -/
def dropZeros : Nat → Decimal → Decimal
  | 0, decimal => decimal
  | fuel + 1, ⟨digits, exponent⟩ =>
    if digits ≠ 0 ∧ digits % 10 = 0 then dropZeros fuel ⟨digits / 10, exponent + 1⟩
    else ⟨digits, exponent⟩

/-- The **shortest decimal** of a positive finite magnitude. Seventeen digits always suffice. -/
def decimal (tie : Tie) (magnitude : Nat) : Decimal :=
  let (m, q) := Binary64.scale magnitude
  let (numerator, denominator) := Binary64.asQuotient m q
  match search tie magnitude numerator denominator (point numerator denominator) 17 1 with
  | some decimal => dropZeros 18 decimal
  | none => ⟨0, 0⟩

/-! ## Layouts -/

/-- How a decimal is laid out as text. -/
structure Layout where
  /-- The least exponent of the first digit that is written positionally. -/
  least : Int
  /-- The greatest exponent of the first digit that is written positionally. -/
  greatest : Int
  /-- Which of two decimals that are equally near is written. -/
  tie : Tie

/-- Positional from 0.00001 to just below 10 ^ 16, scientific elsewhere. -/
def compact : Layout := ⟨-5, 15, .toEven⟩

/-- Positional for every number of the format. -/
def positional : Layout := ⟨-400, 400, .up⟩

/-- A row of zeros. -/
def zeros (count : Nat) : List Char := List.replicate count '0'

/-- Digits with a point in them or behind them; a whole number keeps one zero after the point. -/
def positionalChars (digits : List Char) (exponent : Int) : List Char :=
  let before := digits.length + exponent
  if 0 ≤ exponent then digits ++ zeros exponent.toNat ++ ['.', '0']
  else if 0 < before then digits.take before.toNat ++ ['.'] ++ digits.drop before.toNat
  else ['0', '.'] ++ zeros (-before).toNat ++ digits

/-- Digits with a point after the first, unless it is the only one, and a signed exponent. -/
def scientificChars (digits : List Char) (exponent : Int) : List Char :=
  let first := digits.length + exponent - 1
  digits.take 1 ++ (if digits.length ≤ 1 then [] else '.' :: digits.drop 1) ++
    ['e', if first < 0 then '-' else '+'] ++ Nat.toDigits 10 first.natAbs

/-- A number as text. Infinity and what is no number have names; the latter has no sign. -/
def Layout.text (layout : Layout) (number : Binary64) : String :=
  if Binary64.infinity < number.magnitude then "NaN"
  else
    let body :=
      if number.magnitude = Binary64.infinity then ['i', 'n', 'f']
      else if number.magnitude = Binary64.zero then ['0', '.', '0']
      else
        let decimal := decimal layout.tie number.magnitude
        let digits := Nat.toDigits 10 decimal.digits
        let first := digits.length + decimal.exponent - 1
        if layout.least ≤ first ∧ first ≤ layout.greatest then
          positionalChars digits decimal.exponent
        else scientificChars digits decimal.exponent
    String.ofList ((if number.negative then ['-'] else []) ++ body)

end Shortest

end CallForest
