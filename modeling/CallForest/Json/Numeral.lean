import CallForest.Json.Fault

/-! # Numerals

The numbers of a JSON document: first the grammar, which splits a numeral into its digits, then the
value. An integer that fits 64 bits is kept; any other numeral becomes a double in two roundings:
its digits are gathered into a word of 64 bits, as many as fit, and the word is then scaled by
powers of ten.

* `Json.Numeral`, `Json.Numeral.read`: numerals and their grammar.
* `Json.Numeral.gather`, `Json.Numeral.scaled`: the two stages of a double.
* `Json.Numeral.evaluate`, `Json.number`: the value of a numeral, and the reader of numbers. -/

namespace CallForest

namespace Json

/-- Whether a byte is a decimal digit. -/
def isDigit (byte : UInt8) : Bool := 0x30 ≤ byte && byte ≤ 0x39

/-- The value of a decimal digit. -/
def digitValue (byte : UInt8) : Nat := byte.toNat - 0x30

/-- The exponent of a numeral. -/
structure Exponent where
  /-- Whether it stands behind a minus sign. -/
  negative : Bool
  /-- Its digits. -/
  digits : Bytes
  deriving DecidableEq, Repr

/-- A numeral without its sign. -/
structure Numeral where
  /-- The digits in front of the point. -/
  whole : Bytes
  /-- The digits behind the point, if there is one. -/
  fraction : Option Bytes
  /-- The exponent, if there is one. -/
  exponent : Option Exponent
  deriving DecidableEq, Repr

namespace Numeral

/-! ## Grammar -/

/-- The sign of an exponent. -/
def exponentSign : Bytes → Bool × Bytes
  | 0x2b :: rest => (false, rest)
  | 0x2d :: rest => (true, rest)
  | rest => (false, rest)

/-- Reads the exponent behind the other parts of a numeral, if there is one. A numeral that breaks
off at the end of the document is reported as `unfinished`. -/
def readExponent (unfinished : Reason) (whole : Bytes) (fraction : Option Bytes) (bytes : Bytes) :
    Except Fault (Numeral × Bytes) :=
  match bytes with
  | [] => .ok (⟨whole, fraction, none⟩, [])
  | mark :: behind =>
    if mark = 0x65 || mark = 0x45 then
      match (exponentSign behind).2 with
      | [] => .error (.here unfinished [])
      | first :: rest =>
        if isDigit first then
          .ok (⟨whole, fraction, some ⟨(exponentSign behind).1, first :: rest.takeWhile isDigit⟩⟩,
            rest.dropWhile isDigit)
        else .error (.here .invalidNumber rest)
    else .ok (⟨whole, fraction, none⟩, bytes)

/-- Reads what follows the digits in front of the point. -/
def readFraction (unfinished : Reason) (whole : Bytes) (bytes : Bytes) :
    Except Fault (Numeral × Bytes) :=
  match bytes with
  | 0x2e :: behind =>
    match behind with
    | [] => .error (.here unfinished [])
    | first :: rest =>
      if isDigit first then
        readExponent unfinished whole (some (first :: rest.takeWhile isDigit))
          (rest.dropWhile isDigit)
      else .error (.ahead .invalidNumber behind)
  | _ => readExponent unfinished whole none bytes

/-- Reads a numeral behind its sign. The digits in front of the point begin with zero only if they
are just that. -/
def read (unfinished : Reason) : Bytes → Except Fault (Numeral × Bytes)
  | [] => .error (.here unfinished [])
  | first :: rest =>
    if first = 0x30 then
      match rest with
      | second :: _ =>
        if isDigit second then .error (.ahead .invalidNumber rest)
        else readFraction unfinished [first] rest
      | [] => readFraction unfinished [first] rest
    else if isDigit first then
      readFraction unfinished (first :: rest.takeWhile isDigit) (rest.dropWhile isDigit)
    else .error (.here .invalidNumber rest)

/-- The sign of an exponent leaves no more bytes than there were. -/
theorem length_exponentSign_le (bytes : Bytes) :
    (exponentSign bytes).2.length ≤ bytes.length := by
  unfold exponentSign
  split <;> simp

/-- An exponent leaves no more bytes than there were. -/
theorem length_readExponent_le {unfinished : Reason} {whole : Bytes} {fraction : Option Bytes}
    {bytes rest : Bytes} {numeral : Numeral}
    (read : readExponent unfinished whole fraction bytes = .ok (numeral, rest)) :
    rest.length ≤ bytes.length := by
  unfold readExponent at read
  split at read
  · simp_all
  · next mark behind =>
    split at read
    · have sign := length_exponentSign_le behind
      split at read
      · simp at read
      · next first tail shape =>
        split at read
        · have drop := length_dropWhile_le isDigit tail
          simp only [Except.ok.injEq, Prod.mk.injEq] at read
          have equal := read.2
          subst equal
          have count := congrArg List.length shape
          simp only [List.length_cons] at count ⊢
          omega
        · simp at read
    · simp_all

/-- A fraction and what follows leave no more bytes than there were. -/
theorem length_readFraction_le {unfinished : Reason} {whole bytes rest : Bytes} {numeral : Numeral}
    (read : readFraction unfinished whole bytes = .ok (numeral, rest)) :
    rest.length ≤ bytes.length := by
  unfold readFraction at read
  split at read
  · split at read
    · simp at read
    · next first tail =>
      split at read
      · have drop := length_dropWhile_le isDigit tail
        have := length_readExponent_le read
        simp only [List.length_cons] at *
        omega
      · simp at read
  · exact length_readExponent_le read

/-- A numeral takes at least one byte. -/
theorem length_read_lt {unfinished : Reason} {bytes rest : Bytes} {numeral : Numeral}
    (done : Numeral.read unfinished bytes = .ok (numeral, rest)) : rest.length < bytes.length := by
  unfold Numeral.read at done
  split at done
  · simp at done
  · next first tail =>
    split at done
    · split at done
      · split at done
        · simp at done
        · have := length_readFraction_le done
          simp only [List.length_cons] at *
          omega
      · have := length_readFraction_le done
        simp only [List.length_cons] at *
        omega
    · split at done
      · have drop := length_dropWhile_le isDigit tail
        have := length_readFraction_le done
        simp only [List.length_cons] at *
        omega
      · simp at done

/-! ## Value -/

/-- The greatest word of 64 bits. -/
def greatestWord : Nat := 0xffffffffffffffff

/-- The greatest exponent that is told apart from greater ones. -/
def greatestExponent : Nat := 0x7fffffff

/-- Appends digits to a number as long as it stays within a limit. Gives the number and how many
digits were left out. -/
def gather (limit number : Nat) : Bytes → Nat × Nat
  | [] => (number, 0)
  | digit :: digits =>
    let longer := number * 10 + digitValue digit
    if limit < longer then (number, digits.length + 1) else gather limit longer digits

/-- The magnitude of `10 ^ 308`, the greatest power of ten of the format. -/
def greatestPower : Nat := Binary64.powerOfTen 308

/-- A magnitude times `10 ^ exponent`, unless it is out of range. Powers below `10 ^ -308` are
reached by dividing by `10 ^ 308` first, each time with a rounding. -/
def scaled (magnitude : Nat) (exponent : Int) : Option Nat :=
  if 0 ≤ exponent then
    if exponent ≤ 308 then
      let product := Binary64.multiply magnitude (Binary64.powerOfTen exponent.toNat)
      if product = Binary64.infinity then none else some product
    else if magnitude = Binary64.zero then some magnitude
    else none
  else if -308 ≤ exponent then
    some (Binary64.divide magnitude (Binary64.powerOfTen (-exponent).toNat))
  else if magnitude = Binary64.zero then some magnitude
  else scaled (Binary64.divide magnitude greatestPower) (exponent + 308)
termination_by (-exponent).toNat
decreasing_by omega

/-- The double of a numeral, or the number of its last bytes in front of which it is found to be out
of range. -/
def toDouble (negative : Bool) (numeral : Numeral) : Except Nat Binary64 :=
  let (whole, left) := gather greatestWord 0 numeral.whole
  let fraction := numeral.fraction.getD []
  let (word, unused) := gather greatestWord whole fraction
  let shift : Int := left - (fraction.length - unused : Nat)
  let finish (exponent : Int) : Except Nat Binary64 :=
    match scaled (Binary64.ofNat word) exponent with
    | some magnitude => .ok ⟨negative, magnitude⟩
    | none => .error 0
  match numeral.exponent with
  | none => finish shift
  | some exponent =>
    let (power, left) := gather greatestExponent 0 exponent.digits
    if left = 0 then finish (if exponent.negative then shift - power else shift + power)
    else if word = 0 || exponent.negative then .ok ⟨negative, Binary64.zero⟩
    else .error (left - 1)

/-- The value of a numeral, or the number of its last bytes in front of which it is found to be out
of range. Minus zero is a double, for there is no such integer. -/
def evaluate (negative : Bool) (numeral : Numeral) : Except Nat Number :=
  let (whole, left) := gather greatestWord 0 numeral.whole
  match numeral.fraction, numeral.exponent with
  | none, none =>
    if left = 0 then
      if negative then
        if whole = 0 || 0x8000000000000000 < whole then .ok (.float ⟨true, Binary64.ofNat whole⟩)
        else .ok (.integer (-(whole : Int)))
      else .ok (.integer whole)
    else (toDouble negative numeral).map .float
  | _, _ => (toDouble negative numeral).map .float

end Numeral

/-- Reads the number behind its sign. -/
def unsigned (negative : Bool) : Reader Number := fun bytes =>
  match done : Numeral.read .endInValue bytes with
  | .error fault => .error fault
  | .ok (numeral, rest) =>
    match numeral.evaluate negative with
    | .ok number => .ok ⟨number, rest, Numeral.length_read_lt done⟩
    | .error left => .error ⟨.grammar .numberOutOfRange, rest.length + left⟩

/-- Reads a number that begins with a sign or a digit. -/
def number : Reader Number
  | [] => unsigned false []
  | sign :: rest =>
    if sign = 0x2d then (unsigned true rest).map (·.after (Nat.le_succ _))
    else unsigned false (sign :: rest)

end Json

end CallForest
