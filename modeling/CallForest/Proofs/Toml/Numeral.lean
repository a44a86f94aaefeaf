import CallForest.Proofs.Toml.Text
import CallForest.Toml.Value

/-! # Reading numbers

A number that counts something is read to its last digit, whichever way it is written. It is not
taken for a date or a time, which begin with digits as well.

* `Toml.EndsValue`: what stands behind a value.
* `Toml.takes_digits`, `Toml.IsNumber.valueOf_eq`: digits are read, and make up their number.
* `Toml.moment?_eq_none`: where no moment begins.
* `Toml.takes_integer`: numbers are read. -/

namespace CallForest

namespace Toml

variable {rest text digits : List Char} {first : Char} {number radix : Nat}
  {inClass : Char → Bool}

/-- What stands **behind a value**: a blank, a comment, a newline, or nothing. -/
def EndsValue (rest : List Char) : Prop :=
  ∀ first ∈ rest.head?, first = ' ' ∨ first = '\t' ∨ first = '#' ∨ first = '\n' ∨ first = '\r'

/-! ### Digits -/

/-- Digits that are grouped begin with their first one. -/
theorem IsGrouped.exists_cons (htext : IsGrouped digits text) :
    ∃ digit others more, digits = digit :: others ∧ text = digit :: more := by
  cases htext <;> exact ⟨_, _, _, rfl, rfl⟩

/-- Digits are read, with the underscores between them. -/
theorem moreDigits_append (htext : IsGrouped digits text)
    (hdigits : ∀ digit ∈ digits, inClass digit = true ∧ digit ≠ '_')
    (hrest : ∀ first ∈ rest.head?, inClass first = false ∧ first ≠ '_') :
    moreDigits inClass (text ++ rest) = .ok (digits, rest) := by
  induction htext with
  | last digit =>
      obtain ⟨hdigit, hunderscore⟩ := hdigits digit List.mem_cons_self
      have hend : moreDigits inClass rest = .ok ([], rest) := by
        cases rest with
        | nil => rfl
        | cons first rest =>
            obtain ⟨hclass, hfirst⟩ := hrest first rfl
            rw [moreDigits, if_neg hfirst, if_neg (by simp [hclass])]
      rw [List.singleton_append, moreDigits, if_neg hunderscore, if_pos hdigit, hend]
      rfl
  | next digit htext ih =>
      obtain ⟨⟨hdigit, hunderscore⟩, hdigits⟩ := List.forall_mem_cons.1 hdigits
      rw [List.cons_append, moreDigits, if_neg hunderscore, if_pos hdigit, ih hdigits]
      rfl
  | @apart digits text digit htext ih =>
      obtain ⟨⟨hdigit, hunderscore⟩, hdigits⟩ := List.forall_mem_cons.1 hdigits
      -- An underscore may stand in front of a digit only.
      have hnext : nextIs inClass (text ++ rest) = true := by
        cases htext with
        | last digit => exact (hdigits digit List.mem_cons_self).1
        | next digit _ => exact (hdigits digit List.mem_cons_self).1
        | apart digit _ => exact (hdigits digit List.mem_cons_self).1
      rw [List.cons_append, List.cons_append, moreDigits, if_neg hunderscore, if_pos hdigit,
        moreDigits, if_pos rfl, if_pos hnext, ih hdigits]
      rfl

/-- **Digits are read.** -/
theorem takes_digits (htext : IsGrouped digits text)
    (hdigits : ∀ digit ∈ digits, inClass digit = true ∧ digit ≠ '_')
    (hrest : ∀ first ∈ rest.head?, inClass first = false ∧ first ≠ '_') :
    Takes (Toml.digits inClass) (text ++ rest) digits rest := by
  have hmore := moreDigits_append htext hdigits hrest
  obtain ⟨digit, others, more, rfl, rfl⟩ := htext.exists_cons
  obtain ⟨hdigit, hunderscore⟩ := hdigits digit List.mem_cons_self
  -- What is read behind the first digit is what is read, but for that digit.
  rw [List.cons_append, moreDigits, if_neg hunderscore, if_pos hdigit] at hmore
  have hbehind : moreDigits inClass (more ++ rest) = .ok (others, rest) := by
    cases hread : moreDigits inClass (more ++ rest) with
    | error fault =>
        rw [hread] at hmore
        cases hmore
    | ok result =>
        rw [hread] at hmore
        obtain ⟨hothers, hleft⟩ := Prod.mk.inj (Except.ok.inj hmore)
        exact congrArg Except.ok (Prod.ext (List.cons.inj hothers).2 hleft)
  refine ⟨Nat.lt_succ_of_le (length_moreDigits_le hbehind), ?_⟩
  show Toml.digits inClass (digit :: (more ++ rest)) = _
  rw [Toml.digits, if_pos hdigit]
  split
  · rename_i fault hfault
    rw [hbehind] at hfault
    cases hfault
  · rename_i found left hfound
    obtain ⟨rfl, rfl⟩ := Prod.mk.inj (Except.ok.inj (hbehind.symm.trans hfound))
    rfl

/-- **Digits make up their number.** -/
theorem IsNumber.valueOf_eq (hdigits : IsNumber radix number digits) :
    valueOf radix digits = number := by
  obtain ⟨values, hvalues, -, hnumber⟩ := hdigits
  have hfold : ∀ start, digits.foldl
      (fun value digit => value * radix + (hexDigit? digit).getD 0) start =
        values.foldl (fun number value => number * radix + value) start := by
    clear hnumber
    induction hvalues with
    | nil => exact fun _ => rfl
    | cons hdigit _ ih =>
        intro start
        rw [List.foldl_cons, List.foldl_cons, ih, hexDigit?_eq hdigit, Option.getD_some]
  rw [valueOf, hfold, foldl_eq_ofDigits, Nat.ofDigits_append, hnumber]
  simp

/-- The digits of a number have values below its radix. -/
theorem IsNumber.exists_value (hdigits : IsNumber radix number digits) {digit : Char}
    (hdigit : digit ∈ digits) : ∃ value < radix, IsHexDigit value digit := by
  obtain ⟨values, hvalues, hradix, -⟩ := hdigits
  obtain ⟨position, hposition, rfl⟩ := List.getElem_of_mem hdigit
  have hlength : position < values.length := hvalues.length_eq ▸ hposition
  exact ⟨values[position], hradix _ (List.getElem_mem hlength), hvalues.get hlength hposition⟩

/-- They are digits below it, and no underscores. -/
theorem IsNumber.isDigitBelow (hdigits : IsNumber radix number digits) {digit : Char}
    (hdigit : digit ∈ digits) : Toml.isDigitBelow radix digit = true ∧ digit ≠ '_' := by
  obtain ⟨value, hvalue, hread⟩ := hdigits.exists_value hdigit
  refine ⟨by simp [Toml.isDigitBelow, hexDigit?_eq hread, hvalue], ?_⟩
  rintro rfl
  have hnone : hexDigit? '_' = none := by decide
  rw [hexDigit?_eq hread] at hnone
  cases hnone

/-- Those of a decimal number are decimal digits. -/
theorem IsNumber.isDigit (hdigits : IsNumber 10 number digits) {digit : Char}
    (hdigit : digit ∈ digits) : digit.isDigit = true ∧ digit ≠ '_' := by
  obtain ⟨value, hvalue, hread⟩ := hdigits.exists_value hdigit
  have hzero : '0'.toNat = 48 ∧ '9'.toNat = 57 := ⟨rfl, rfl⟩
  refine ⟨isDigit_iff.2 ?_, (hdigits.isDigitBelow hdigit).2⟩
  rcases hread with ⟨-, hread⟩ | ⟨hleast, -⟩ <;> omega

/-! ### Where no moment begins -/

/-- A mark that is read is there. -/
theorem eq_cons_of_mark {wanted : Char} {chars : List Char} {step : Step chars Unit}
    (hread : mark wanted chars = .ok step) : chars = wanted :: step.rest := by
  cases chars with
  | nil => cases hread
  | cons first rest =>
      rw [mark] at hread
      split at hread
      · rename_i hfirst
        obtain rfl := Except.ok.inj hread
        rw [hfirst]
        rfl
      · cases hread

/-- Two digits that are read are there. -/
theorem eq_cons_of_twoDigits {least greatest : Nat} {chars : List Char} {step : Step chars Nat}
    (hread : twoDigits least greatest chars = .ok step) :
    ∃ tens ones, chars = tens :: ones :: step.rest ∧ tens.isDigit = true ∧ ones.isDigit = true := by
  rw [twoDigits.eq_def] at hread
  split at hread
  · rename_i tens ones rest
    simp only at hread
    split at hread
    · rename_i hdigits
      obtain rfl := Except.ok.inj hread
      simp only [Bool.and_eq_true] at hdigits
      exact ⟨tens, ones, rfl, hdigits.1.1.1, hdigits.1.1.2⟩
    · cases hread
  · cases hread

/-- **No moment begins** where neither a dash nor a colon stands behind the first digits. A dash may
stand where there are no digits. -/
theorem moment?_eq_none {chars : List Char}
    (hcolon : ∀ first ∈ (chars.dropWhile Char.isDigit).head?, first ≠ ':')
    (hdash : chars.takeWhile Char.isDigit = [] ∨
      ∀ first ∈ (chars.dropWhile Char.isDigit).head?, first ≠ '-') : moment? chars = none := by
  have hyear : year? chars = none := by
    rw [year?.eq_def]
    split
    · rename_i a b c d rest
      rw [if_neg]
      intro hdigits
      obtain ⟨ha, hb, hc, hd⟩ : a.isDigit = true ∧ b.isDigit = true ∧ c.isDigit = true ∧
          d.isDigit = true := by simpa using hdigits
      rcases hdash with hnone | hdash
      · simp [ha] at hnone
      · exact hdash '-' (by simp [ha, hb, hc, hd]) rfl
    · rfl
  have hhour : hour? chars = none := by
    rw [hour?]
    split
    · rfl
    · rename_i hour hread
      split
      · rfl
      · rename_i colon hmark
        obtain ⟨tens, ones, hchars, htens, hones⟩ := eq_cons_of_twoDigits hread
        have hhead : (chars.dropWhile Char.isDigit).head? = some ':' := by
          rw [hchars, eq_cons_of_mark hmark]
          simp [htens, hones]
        exact absurd rfl (hcolon ':' hhead)
  rw [moment?, date?, hyear, Option.map_none]
  simp only [time?, hhour, Option.map_none]

/-! ### Numbers -/

/-- What stands behind a value is no digit, and nothing that goes on with a number. -/
theorem EndsValue.not_digit (hrest : EndsValue rest) (hfirst : first ∈ rest.head?) :
    first.isDigit = false ∧ (∀ radix ≤ 16, isDigitBelow radix first = false) ∧ first ≠ '_' ∧
      first ≠ '.' ∧ first ≠ 'e' ∧ first ≠ 'E' ∧ first ≠ '-' ∧ first ≠ ':' ∧
        radix? first = none := by
  have hnone : hexDigit? first = none ∧ first.isDigit = false ∧ first ≠ '_' ∧
      first ≠ '.' ∧ first ≠ 'e' ∧ first ≠ 'E' ∧ first ≠ '-' ∧ first ≠ ':' ∧
        radix? first = none := by
    rcases hrest first hfirst with rfl | rfl | rfl | rfl | rfl <;> decide
  obtain ⟨hvalue, hdigit, hothers⟩ := hnone
  exact ⟨hdigit, fun radix _ => by simp [isDigitBelow, hvalue], hothers⟩

/-- The digits of a decimal number are read. -/
theorem takes_whole (hdigits : IsNumber 10 number digits)
    (hzero : digits.head? = some '0' → digits = ['0']) (htext : IsGrouped digits text)
    (hrest : EndsValue rest) : Takes whole (text ++ rest) digits rest := by
  have hread : Takes (Toml.digits Char.isDigit) (text ++ rest) digits rest :=
    takes_digits htext (fun _ => hdigits.isDigit)
      fun first hfirst => ⟨(hrest.not_digit hfirst).1, (hrest.not_digit hfirst).2.2.1⟩
  by_cases hfirst : digits.head? = some '0'
  · -- A zero is the only digit.
    obtain rfl := hzero hfirst
    cases htext with
    | last _ => exact ⟨Nat.lt_succ_self _, rfl⟩
    | next _ hnone => cases hnone
    | apart _ hnone => cases hnone
  · obtain ⟨digit, others, more, rfl, rfl⟩ := htext.exists_cons
    have hdigit := (hdigits.isDigit List.mem_cons_self).1
    have hne : digit ≠ '0' := fun hsame => hfirst (congrArg some hsame)
    rw [List.cons_append] at hread ⊢
    obtain ⟨hshorter, hread⟩ := hread
    exact ⟨hshorter, by rw [whole, if_neg hne, if_pos hdigit, hread]⟩

/-- A **decimal number** is read. -/
theorem takes_decimal (negative : Bool) (hsign : negative = true → number = 0)
    (hnumber : number < 2 ^ 63) (hdigits : IsNumber 10 number digits)
    (hzero : digits.head? = some '0' → digits = ['0']) (htext : IsGrouped digits text)
    (hrest : EndsValue rest) :
    Takes (decimal negative) (text ++ rest) (some (.integer number)) rest := by
  obtain ⟨hshorter, hwhole⟩ := takes_whole hdigits hzero htext hrest
  have hfraction : fraction rest = .ok none := by
    cases rest with
    | nil => rfl
    | cons first rest => rw [fraction, if_neg (hrest.not_digit rfl).2.2.2.1]
  have hexponent : exponent rest = .ok none := by
    cases rest with
    | nil => rfl
    | cons first rest =>
        obtain ⟨-, -, -, -, hsmall, hcapital, -⟩ := hrest.not_digit (Option.mem_some_self first)
        rw [exponent, if_neg (by simp [hsmall, hcapital])]
  have hbehind : exponent (Step.restOf (none : Option (Step rest (List Char)))) = .ok none :=
    hexponent
  -- Only zero is negative, and it is zero all the same.
  have hscalar : integer? (if negative = true then -(number : Int) else (number : Int)) =
      some (.integer number) := by
    have hsame : (if negative = true then -(number : Int) else (number : Int)) = number := by
      cases negative with
      | true =>
          rw [hsign rfl]
          rfl
      | false => rfl
    rw [hsame, integer?, if_pos]
    simp only [Bool.and_eq_true, decide_eq_true_eq]
    omega
  refine ⟨hshorter, ?_⟩
  rw [decimal, hwhole]
  simp only [hfraction]
  rw [hbehind]
  show Except.ok (⟨integer? (if negative = true then -(valueOf 10 digits : Int)
    else (valueOf 10 digits : Int)), rest, _⟩ : Step (text ++ rest) (Option Scalar)) = _
  rw [hdigits.valueOf_eq]
  simp only [hscalar]

/-- A number in the digits of a **radix** is read. -/
theorem takes_inRadix (hradix : radix ≤ 16) (hnumber : number < 2 ^ 63)
    (hdigits : IsNumber radix number digits) (htext : IsGrouped digits text)
    (hrest : EndsValue rest) :
    Takes (inRadix radix) (text ++ rest) (some (.integer number)) rest := by
  obtain ⟨hshorter, hread⟩ := takes_digits htext (fun _ => hdigits.isDigitBelow)
    fun first hfirst => ⟨(hrest.not_digit hfirst).2.1 radix hradix, (hrest.not_digit hfirst).2.2.1⟩
  have hscalar : integer? (number : Int) = some (.integer number) := by
    rw [integer?, if_pos]
    simp only [Bool.and_eq_true, decide_eq_true_eq]
    omega
  refine ⟨hshorter, ?_⟩
  rw [inRadix, hread]
  show Except.ok (⟨integer? (valueOf radix digits : Int), rest, _⟩ :
    Step (text ++ rest) (Option Scalar)) = _
  rw [hdigits.valueOf_eq]
  simp only [hscalar]

/-- A number that does not begin with a letter is read as one without a name. -/
theorem takes_number_of_unnamed {chars : List Char} {scalar : Scalar}
    (hname : named? (sign chars).2 = none) (hread : Takes unnamed chars (some scalar) rest) :
    Takes Toml.number chars scalar rest := by
  obtain ⟨hshorter, hread⟩ := hread
  refine ⟨hshorter, ?_⟩
  rw [Toml.number, hname]
  simp only [hread]

/-- A number behind a sign is read as a decimal one, unless a radix is announced. -/
theorem takes_unnamed_decimal {chars : List Char} {scalar : Option Scalar}
    (hradix : ∀ letter behind, chars = '0' :: letter :: behind → radix? letter = none)
    (hread : Takes (decimal (sign chars).1) (sign chars).2 scalar rest) :
    Takes unnamed chars scalar rest := by
  obtain ⟨hshorter, hread⟩ := hread
  refine ⟨hshorter.trans_le (length_sign_le chars), ?_⟩
  rw [unnamed.eq_def]
  split
  · rename_i letter behind
    rw [hradix letter behind rfl]
    exact hread
  · rw [hread]
    rfl

/-- What is no moment, and begins like a number, is read as one. -/
theorem takes_scalar_of_number {more : List Char} {found : Scalar}
    (hfirst : first.isDigit = true ∨ first = '+' ∨ first = '-')
    (hmoment : moment? (first :: more) = none)
    (hread : Takes Toml.number (first :: more) found rest) :
    Takes scalar (first :: more) found rest := by
  have hquote : (first = '"' || first = '\'') = false := by
    rcases hfirst with hdigit | rfl | rfl
    · have hne : first ≠ '"' ∧ first ≠ '\'' := by
        constructor <;> (rintro rfl; exact absurd hdigit (by decide))
      simp [hne]
    · rfl
    · rfl
  have hbegins : (first.isDigit || first = '+' || first = '-') = true := by
    simpa [or_assoc] using hfirst
  obtain ⟨hshorter, hread⟩ := hread
  refine ⟨hshorter, ?_⟩
  rw [scalar, hquote, if_neg (by decide), if_pos hbegins, momentOrNumber, hmoment]
  exact hread

/-- Behind the first digits of a number stands neither a dash nor a colon. -/
theorem dropWhile_isDigit_append (htext : IsGrouped digits text)
    (hdigits : ∀ digit ∈ digits, digit.isDigit = true) (hrest : EndsValue rest) :
    ∀ first ∈ ((text ++ rest).dropWhile Char.isDigit).head?, first ≠ ':' ∧ first ≠ '-' := by
  induction htext with
  | last digit =>
      have hdigit := hdigits digit List.mem_cons_self
      rw [List.singleton_append, List.dropWhile_cons_of_pos hdigit]
      cases rest with
      | nil => simp
      | cons next rest =>
          obtain ⟨hnext, -, -, -, -, -, hdash, hcolon, -⟩ :=
            hrest.not_digit (Option.mem_some_self next)
          rw [List.dropWhile_cons_of_neg (by simp [hnext])]
          intro first hfirst
          obtain rfl : next = first := Option.some.inj hfirst
          exact ⟨hcolon, hdash⟩
  | next digit _ ih =>
      obtain ⟨hdigit, hdigits⟩ := List.forall_mem_cons.1 hdigits
      rw [List.cons_append, List.dropWhile_cons_of_pos hdigit]
      exact ih hdigits
  | apart digit _ ih =>
      rw [List.cons_append, List.dropWhile_cons_of_pos (hdigits digit List.mem_cons_self),
        List.cons_append, List.dropWhile_cons_of_neg (by decide)]
      intro first hfirst
      obtain rfl : '_' = first := Option.some.inj hfirst
      decide

/-- No name of a number begins with a digit. -/
theorem named?_digit (hfirst : first.isDigit = true) (more : List Char) :
    named? (first :: more) = none := by
  rw [named?.eq_3]
  · rintro tail hchars
    obtain rfl := (List.cons.inj hchars).1
    exact absurd hfirst (by decide)
  · rintro tail hchars
    obtain rfl := (List.cons.inj hchars).1
    exact absurd hfirst (by decide)

/-- A digit is no sign. -/
theorem sign_digit (hfirst : first.isDigit = true) (more : List Char) :
    sign (first :: more) = (false, first :: more) := by
  rw [sign.eq_def]
  split
  · rename_i hchars
    obtain rfl := (List.cons.inj hchars).1
    exact absurd hfirst (by decide)
  · rename_i hchars
    obtain rfl := (List.cons.inj hchars).1
    exact absurd hfirst (by decide)
  · rfl

/-- A **decimal number** is read, with a sign or without, once no moment and no radix is found where
it begins. -/
theorem takes_signed {digit : Char} {others more chars : List Char} {negative : Bool}
    (hnumber : number < 2 ^ 63) (hdigits : IsNumber 10 number (digit :: others))
    (hzero : (digit :: others).head? = some '0' → digit :: others = ['0'])
    (htext : IsGrouped (digit :: others) (digit :: more)) (hrest : EndsValue rest)
    (hfirst : first.isDigit = true ∨ first = '+' ∨ first = '-')
    (hsign : sign (first :: chars) = (negative, digit :: (more ++ rest)))
    (hnegative : negative = true → number = 0) (hmoment : moment? (first :: chars) = none)
    (hradix : ∀ letter behind, first :: chars = '0' :: letter :: behind → radix? letter = none) :
    Takes scalar (first :: chars) (.integer number) rest := by
  have hdigit := (hdigits.isDigit List.mem_cons_self).1
  refine takes_scalar_of_number hfirst hmoment ?_
  refine takes_number_of_unnamed ?_ (takes_unnamed_decimal hradix ?_)
  · rw [hsign]
    exact named?_digit hdigit _
  · rw [hsign]
    exact takes_decimal negative hnegative hnumber hdigits hzero htext hrest

/-- A decimal number without a sign is read. -/
theorem takes_unsigned (hnumber : number < 2 ^ 63) (hdigits : IsNumber 10 number digits)
    (hzero : digits.head? = some '0' → digits = ['0']) (htext : IsGrouped digits text)
    (hrest : EndsValue rest) : Takes scalar (text ++ rest) (.integer number) rest := by
  obtain ⟨digit, others, more, rfl, rfl⟩ := htext.exists_cons
  have hdigit := (hdigits.isDigit List.mem_cons_self).1
  have hdrop := dropWhile_isDigit_append htext (fun _ hother => (hdigits.isDigit hother).1) hrest
  have hmoment : moment? (digit :: (more ++ rest)) = none :=
    moment?_eq_none (fun first hfirst => (hdrop first hfirst).1)
      (.inr fun first hfirst => (hdrop first hfirst).2)
  refine takes_signed hnumber hdigits hzero htext hrest (.inl hdigit) (sign_digit hdigit _)
    (fun hnone => absurd hnone Bool.false_ne_true) hmoment ?_
  intro letter behind hchars
  -- Behind a zero in front there is no further digit.
  obtain ⟨rfl, hbehind⟩ := List.cons.inj hchars
  obtain rfl : others = [] := (List.cons.inj (hzero rfl)).2
  cases htext with
  | last _ =>
      obtain rfl : rest = letter :: behind := hbehind
      exact (hrest.not_digit rfl).2.2.2.2.2.2.2.2
  | next _ hnone => cases hnone
  | apart _ hnone => cases hnone

/-- A number in the digits of another radix is read. -/
theorem takes_ofRadix {letter : Char} (hletter : (letter, radix) ∈ radixLetters)
    (hnumber : number < 2 ^ 63) (hdigits : IsNumber radix number digits)
    (htext : IsGrouped digits text) (hrest : EndsValue rest) :
    Takes scalar ('0' :: letter :: (text ++ rest)) (.integer number) rest := by
  have hradix : radix ≤ 16 ∧ radix? letter = some radix ∧ letter ≠ ':' ∧ letter ≠ '-' ∧
      letter.isDigit = false := by
    simp only [radixLetters, List.mem_cons, List.not_mem_nil, or_false, Prod.mk.injEq] at hletter
    rcases hletter with ⟨rfl, rfl⟩ | ⟨rfl, rfl⟩ | ⟨rfl, rfl⟩ <;> decide
  obtain ⟨hradix, hfound, hcolon, hdash, hdigit⟩ := hradix
  obtain ⟨hshorter, hread⟩ := takes_inRadix hradix hnumber hdigits htext hrest
  have hunnamed : Takes unnamed ('0' :: letter :: (text ++ rest)) (some (.integer number))
      rest := by
    refine ⟨Nat.lt_succ_of_lt (Nat.lt_succ_of_lt hshorter), ?_⟩
    rw [unnamed, hfound]
    simp only [hread]
    rfl
  have hdrop : ('0' :: letter :: (text ++ rest)).dropWhile Char.isDigit =
      letter :: (text ++ rest) := by
    rw [List.dropWhile_cons_of_pos (by decide), List.dropWhile_cons_of_neg (by simp [hdigit])]
  have hmoment : moment? ('0' :: letter :: (text ++ rest)) = none := by
    refine moment?_eq_none ?_ (.inr ?_)
    · rw [hdrop]
      rintro first ⟨⟩
      exact hcolon
    · rw [hdrop]
      rintro first ⟨⟩
      exact hdash
  refine takes_scalar_of_number (.inl (by decide)) hmoment ?_
  exact takes_number_of_unnamed rfl hunnamed

/-- **A number that counts something is read**, however it is written. -/
theorem takes_integer (hnumber : number < 2 ^ 63) (htext : IsInteger number text)
    (hrest : EndsValue rest) : Takes scalar (text ++ rest) (.integer number) rest := by
  cases htext with
  | @decimal mark digits text hsign hdigits hzero htext =>
      rcases hsign with rfl | hmark
      · exact takes_unsigned hnumber hdigits hzero htext hrest
      -- A sign begins neither a moment nor a number of another radix.
      · obtain ⟨digit, others, more, rfl, rfl⟩ := htext.exists_cons
        have hmoment : ∀ {first : Char}, first = '+' ∨ first = '-' →
            moment? (first :: digit :: (more ++ rest)) = none := by
          rintro first (rfl | rfl) <;> refine moment?_eq_none ?_ (.inl rfl) <;>
            (rintro first ⟨⟩; decide)
        rcases hmark with rfl | ⟨rfl, hzero'⟩
        · exact takes_signed hnumber hdigits hzero htext hrest (.inr (.inl rfl)) rfl
            (fun hnone => absurd hnone Bool.false_ne_true) (hmoment (.inl rfl))
            fun letter behind hchars => absurd (List.cons.inj hchars).1 (by decide)
        · exact takes_signed hnumber hdigits hzero htext hrest (.inr (.inr rfl)) rfl
            (fun _ => hzero') (hmoment (.inr rfl))
            fun letter behind hchars => absurd (List.cons.inj hchars).1 (by decide)
  | inRadix hletter hdigits htext => exact takes_ofRadix hletter hnumber hdigits htext hrest

end Toml

end CallForest
