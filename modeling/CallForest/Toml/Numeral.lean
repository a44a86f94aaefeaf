import CallForest.Toml.Scalar
import CallForest.Toml.Text

/-! # Numbers of TOML documents

Integers are decimal, hexadecimal, octal or binary and have 64 bits; floats are decimal, with a
fraction, an exponent or both, or have a name. Between two digits an underscore may stand.

* `Toml.digits`: the reader of digits.
* `Toml.decimal`, `Toml.inRadix`, `Toml.named?`: the readers of the kinds of numbers.
* `Toml.number`: the reader of a number. -/

namespace CallForest

namespace Toml

/-! ## Digits -/

/-- Whether the next character is in a class. -/
def nextIs (inClass : Char → Bool) : List Char → Bool
  | [] => false
  | next :: _ => inClass next

/-- Reads the digits behind a digit; an underscore stands between two of them. -/
def moreDigits (isDigit : Char → Bool) : List Char → Except Fault (List Char × List Char)
  | [] => .ok ([], [])
  | first :: rest =>
    if first = '_' then
      if nextIs isDigit rest then moreDigits isDigit rest else .error (.here rest)
    else if isDigit first then
      (moreDigits isDigit rest).map fun (digits, behind) => (first :: digits, behind)
    else .ok ([], first :: rest)

/-- Digits leave no more characters than there were. -/
theorem length_moreDigits_le {isDigit : Char → Bool} {chars digits rest : List Char}
    (done : moreDigits isDigit chars = .ok (digits, rest)) : rest.length ≤ chars.length := by
  induction chars generalizing digits rest with
  | nil => simp_all [moreDigits]
  | cons first more ih =>
    simp only [moreDigits] at done
    split at done
    · split at done
      · exact Nat.le_succ_of_le (ih done)
      · simp at done
    · split at done
      · cases behind : moreDigits isDigit more with
        | error fault => simp [behind, Except.map] at done
        | ok result =>
          simp only [behind, Except.map, Except.ok.injEq, Prod.mk.injEq] at done
          exact Nat.le_succ_of_le (done.2 ▸ ih behind)
      · simp_all

/-- Reads **digits**, at least one. -/
def digits (isDigit : Char → Bool) : Reader (List Char)
  | [] => .error (.here [])
  | first :: rest =>
    if isDigit first then
      match done : moreDigits isDigit rest with
      | .error fault => .error fault
      | .ok (more, behind) =>
        .ok ⟨first :: more, behind, Nat.lt_succ_of_le (length_moreDigits_le done)⟩
    else .error (.here (first :: rest))

/-- The number that digits write. -/
def valueOf (radix : Nat) (digits : List Char) : Nat :=
  digits.foldl (fun value digit => value * radix + (hexDigit? digit).getD 0) 0

/-! ## Kinds of numbers -/

/-- An integer that fits into 64 bits, which is all that is allowed. -/
def integer? (value : Int) : Option Scalar :=
  if -0x8000000000000000 ≤ value && value < 0x8000000000000000 then some (.integer value) else none

/-- The double nearest to a decimal; it may not be beyond the greatest one. -/
def float? (negative : Bool) (whole fraction : List Char) (exponent : Int) : Option Scalar :=
  let digits := (whole ++ fraction).dropWhile (· = '0')
  let magnitude :=
    Binary64.ofDecimal (valueOf 10 digits) digits.length (exponent - fraction.length)
  if magnitude = Binary64.infinity && !negative then none else some (.float ⟨negative, magnitude⟩)

/-- Whether a number is negative, and what is behind its sign. -/
def sign : List Char → Bool × List Char
  | '-' :: rest => (true, rest)
  | '+' :: rest => (false, rest)
  | chars => (false, chars)

/-- A sign leaves no more characters than there were. -/
theorem length_sign_le (chars : List Char) : (sign chars).2.length ≤ chars.length := by
  unfold sign
  split <;> simp

/-- Reads the digits in front of a point. A zero in front is the only one. -/
def whole : Reader (List Char)
  | [] => .error (.perhaps [])
  | first :: rest =>
    if first = '0' then .ok (.one ['0'])
    else if first.isDigit then digits Char.isDigit (first :: rest)
    else .error (.perhaps (first :: rest))

/-- Reads a fraction, if there is one. -/
def fraction : (chars : List Char) → Except Fault (Option (Step chars (List Char)))
  | [] => .ok none
  | first :: rest =>
    if first = '.' then (digits Char.isDigit rest).map fun step => some step.behind
    else .ok none

/-- Reads an exponent, if there is one. -/
def exponent : (chars : List Char) → Except Fault (Option (Step chars Int))
  | [] => .ok none
  | first :: rest =>
    if first = 'e' || first = 'E' then
      (digits Char.isDigit (sign rest).2).map fun step =>
        let value : Int := valueOf 10 step.value
        let signed := if (sign rest).1 then -value else value
        some ((step.map fun _ => signed).after (Nat.le_succ_of_le (length_sign_le rest)))
    else .ok none

/-- Reads a decimal number behind its sign, or nothing if it is out of range. -/
def decimal (negative : Bool) : Reader (Option Scalar) := fun chars =>
  match whole chars with
  | .error fault => .error fault
  | .ok ⟨digits, behind, shorter⟩ =>
    match fraction behind with
    | .error fault => .error fault
    | .ok part =>
      have _part := Step.length_restOf_le part
      match exponent (Step.restOf part) with
      | .error fault => .error fault
      | .ok power =>
        have _power := Step.length_restOf_le power
        let scalar :=
          match part, power with
          | none, none =>
            let value : Int := valueOf 10 digits
            integer? (if negative then -value else value)
          | _, _ => float? negative digits (part.elim [] (·.value)) (power.elim 0 (·.value))
        .ok ⟨scalar, Step.restOf power, by omega⟩

/-- The radix that a letter behind a zero announces. -/
def radix? : Char → Option Nat
  | 'x' => some 16
  | 'o' => some 8
  | 'b' => some 2
  | _ => none

/-- Whether a character is a digit below a radix. -/
def isDigitBelow (radix : Nat) (character : Char) : Bool :=
  (hexDigit? character).any (· < radix)

/-- Reads an integer with a given radix, or nothing if it is out of range. -/
def inRadix (radix : Nat) : Reader (Option Scalar) := fun chars =>
  (digits (isDigitBelow radix) chars).map fun step =>
    step.map fun digits => integer? (valueOf radix digits)

/-- What is behind a number with a name, and its magnitude. -/
def named? : (chars : List Char) → Option (Step chars Nat)
  | 'i' :: 'n' :: 'f' :: _ => some (Step.one Binary64.infinity).behind.behind
  | 'n' :: 'a' :: 'n' :: _ => some (Step.one Binary64.notANumber).behind.behind
  | _ => none

/-! ## Numbers -/

/-- Reads an integer with a radix, or a decimal number, or nothing if it is out of range. -/
def unnamed : Reader (Option Scalar)
  | '0' :: letter :: rest =>
    match radix? letter with
    | some radix => (inRadix radix rest).map (·.behind.behind)
    | none => decimal false ('0' :: letter :: rest)
  | chars => (decimal (sign chars).1 (sign chars).2).map (·.after (length_sign_le chars))

/-- Reads a **number**. -/
def number : Reader Scalar := fun chars =>
  match named? (sign chars).2 with
  | some step =>
    let step := step.map fun magnitude => .float ⟨(sign chars).1, magnitude⟩
    .ok (step.after (length_sign_le chars))
  | none =>
    match unnamed chars with
    | .error fault => .error fault
    | .ok ⟨none, _, _⟩ => .error (.here chars)
    | .ok ⟨some scalar, rest, shorter⟩ => .ok ⟨scalar, rest, shorter⟩

end Toml

end CallForest
