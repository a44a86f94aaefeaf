/-! # Binary64 numbers

Double-precision numbers as a sign and the word of their magnitude, computed with natural numbers
only. A finite magnitude is `m · 2 ^ q`; a positive quotient is rounded to the nearest magnitude, a
tie to the even word, and overflows to infinity.

* `Binary64`: sign and magnitude word.
* `Binary64.roundQuotient`: the magnitude nearest to a quotient of natural numbers.
* `Binary64.scale`: a magnitude as `m · 2 ^ q`.
* `Binary64.multiply`, `Binary64.divide`, `Binary64.powerOfTen`: arithmetic on magnitudes.
* `Binary64.ofDecimal`: the number nearest to a decimal. -/

namespace CallForest

/-- A double-precision number. -/
structure Binary64 where
  /-- The sign bit. -/
  negative : Bool
  /-- The other 63 bits: biased exponent and fraction. -/
  magnitude : Nat
  deriving DecidableEq, Repr

namespace Binary64

/-- The magnitude of infinity. Greater magnitudes are no numbers. -/
def infinity : Nat := 0x7ff0000000000000

/-- A magnitude that is no number. -/
def notANumber : Nat := 0x7ff8000000000000

/-- The magnitude of zero. -/
def zero : Nat := 0

/-- The unit of the biased exponent in a magnitude word, and the leading digit that the fraction of
a normal number leaves out. -/
def exponentUnit : Nat := 0x10000000000000

/-- The sign bit in a word. -/
def signUnit : Nat := 0x8000000000000000

/-- Whether a magnitude stands for a number below infinity. -/
def isFinite (magnitude : Nat) : Bool := magnitude < infinity

/-- The 64 bits of a number. -/
def word (number : Binary64) : Nat :=
  (if number.negative then signUnit else 0) + number.magnitude

/-- A quotient rounded to the nearest natural number, a tie to the even one. -/
def roundDivision (numerator denominator : Nat) : Nat :=
  let quotient := numerator / denominator
  let twice := 2 * (numerator % denominator)
  if twice < denominator then quotient
  else if denominator < twice then quotient + 1
  else quotient + quotient % 2

/-- The greatest `e` with `2 ^ e ≤ numerator / denominator`, for positive arguments. -/
def exponentOf (numerator denominator : Nat) : Int :=
  let estimate : Int := (numerator.log2 : Int) - denominator.log2
  let reached : Bool :=
    if 0 ≤ estimate then decide (denominator <<< estimate.toNat ≤ numerator)
    else decide (denominator ≤ numerator <<< (-estimate).toNat)
  if reached then estimate else estimate - 1

/-- The magnitude nearest to a quotient. Its unit in the last place is `2 ^ q`, where `q` leaves 53
bits before the point but is never below the least exponent; a magnitude word grows by one from each
multiple of that unit to the next. -/
def roundQuotient (numerator denominator : Nat) : Nat :=
  if numerator = 0 then zero
  else
    let unit : Int := max (exponentOf numerator denominator - 52) (-1074)
    let units :=
      if 0 ≤ unit then roundDivision numerator (denominator <<< unit.toNat)
      else roundDivision (numerator <<< (-unit).toNat) denominator
    min infinity ((unit + 1074).toNat * exponentUnit + units)

/-- A finite magnitude as `m · 2 ^ q`. -/
def scale (magnitude : Nat) : Nat × Int :=
  let exponent : Nat := magnitude / exponentUnit
  let fraction := magnitude % exponentUnit
  if exponent = 0 then (fraction, -1074) else (exponentUnit + fraction, (exponent : Int) - 1075)

/-- The quotient `m · 2 ^ q` as numerator and denominator. -/
def asQuotient (m : Nat) (q : Int) : Nat × Nat :=
  if 0 ≤ q then (m <<< q.toNat, 1) else (m, 1 <<< (-q).toNat)

/-- The product of two finite magnitudes. -/
def multiply (left right : Nat) : Nat :=
  let (m, q) := scale left
  let (n, r) := scale right
  let (numerator, denominator) := asQuotient (m * n) (q + r)
  roundQuotient numerator denominator

/-- The quotient of two finite magnitudes, the second of them not zero. -/
def divide (left right : Nat) : Nat :=
  let (m, q) := scale left
  let (n, r) := scale right
  let (numerator, denominator) := asQuotient m (q - r)
  roundQuotient numerator (denominator * n)

/-- The magnitude nearest to a natural number. -/
def ofNat (value : Nat) : Nat := roundQuotient value 1

/-- The number nearest to an integer. -/
def ofInt (value : Int) : Binary64 := ⟨value < 0, ofNat value.natAbs⟩

/-- The magnitude nearest to a power of ten. -/
def powerOfTen (exponent : Nat) : Nat := ofNat (Nat.pow 10 exponent)

/-- The magnitude nearest to `digits · 10 ^ exponent`, where `digits` has `count` digits. Beyond the
reach of the format it is infinity or zero at once. -/
def ofDecimal (digits count : Nat) (exponent : Int) : Nat :=
  if digits = 0 then zero
  else if 400 < (count : Int) + exponent then infinity
  else if (count : Int) + exponent < -400 then zero
  else if 0 ≤ exponent then roundQuotient (digits * Nat.pow 10 exponent.toNat) 1
  else roundQuotient digits (Nat.pow 10 (-exponent).toNat)

end Binary64

end CallForest
