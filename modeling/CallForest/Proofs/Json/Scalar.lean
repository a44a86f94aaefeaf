import CallForest.Proofs.Json.Text

/-! # Reading scalars

A text of a scalar is read to its last byte. Numerals are the only scalars whose end shows only in
what follows, so the bytes behind must be such as a numeral ends at.

* `Json.Numeral.read_append`: reading a numeral.
* `Json.Tree.scalar?`: the scalar that a tree is.
* `Json.outcome_scalar?`, `Json.outcome_passScalar?`: reading a scalar, and passing over it.
* `Json.Tree.exists_cons_of_isText`: how a text of a tree begins.
* `Json.outcome_scalarOf`: reading a scalar of a kind. -/

namespace CallForest

namespace Json

variable {digits whole point mark text blanks rest behind : Bytes} {negative : Bool} {tree : Tree}

/-! ### Numerals -/

/-- Bytes that do not go on with a digit. -/
def EndsDigits (rest : Bytes) : Prop := ∀ byte ∈ rest.head?, isDigit byte = false

/-- A row of digits is taken up to its end, and what follows is left. -/
theorem takeWhile_digits (hdigits : ∀ byte ∈ digits, isDigit byte = true)
    (hrest : EndsDigits rest) :
    (digits ++ rest).takeWhile isDigit = digits ∧ (digits ++ rest).dropWhile isDigit = rest := by
  rw [List.takeWhile_append_of_pos hdigits, List.dropWhile_append_of_pos hdigits]
  cases rest with
  | nil => simp
  | cons byte rest =>
      have hbyte : ¬isDigit byte = true := by rw [hrest byte rfl]; exact Bool.false_ne_true
      rw [List.takeWhile_cons_of_neg hbyte, List.dropWhile_cons_of_neg hbyte, List.append_nil]
      exact ⟨rfl, rfl⟩

/-- The first byte of a row of digits. -/
theorem IsDigits.exists_cons (hdigits : IsDigits digits) :
    ∃ first more, digits = first :: more ∧ isDigit first = true ∧
      ∀ byte ∈ more, isDigit byte = true := by
  obtain ⟨hne, hall⟩ := hdigits
  obtain ⟨first, more, rfl⟩ := List.exists_cons_of_ne_nil hne
  obtain ⟨hfirst, hmore⟩ := List.forall_mem_cons.1 hall
  exact ⟨first, more, rfl, hfirst, hmore⟩

/-- Where a numeral ends, there is no digit. -/
theorem Delimited.endsDigits (hrest : Delimited rest) : EndsDigits rest :=
  fun byte hbyte => (hrest byte hbyte).1

namespace Numeral

variable {unfinished : Reason} {fraction : Option Bytes} {exponent : Option Exponent}

/-- The sign of an exponent is read in front of its digits. -/
theorem exponentSign_append {sign : Bytes}
    (hsign : sign ∈ if negative then [[0x2d]] else [[], [0x2b]]) (hdigits : IsDigits digits)
    (rest : Bytes) :
    exponentSign (sign ++ (digits ++ rest)) = (negative, digits ++ rest) := by
  cases negative with
  | true =>
      obtain rfl := List.mem_singleton.1 hsign
      rfl
  | false =>
      have hsign : sign = [] ∨ sign = [0x2b] := by simpa using hsign
      obtain rfl | rfl := hsign
      -- Without a sign, the first byte is a digit, which is not taken for a sign.
      · obtain ⟨first, more, rfl, hfirst, -⟩ := hdigits.exists_cons
        rw [List.nil_append, List.cons_append, exponentSign]
        · rintro _ hsame
          obtain rfl := (List.cons.inj hsame).1
          cases hfirst
        · rintro _ hsame
          obtain rfl := (List.cons.inj hsame).1
          cases hfirst
      · rfl

/-- An exponent, or its lack, is read behind the other parts. -/
theorem readExponent_append
    (hexponent : match exponent with
      | none => mark = []
      | some exponent => exponent.IsText mark)
    (hrest : Delimited rest) :
    readExponent unfinished whole fraction (mark ++ rest) =
      .ok (⟨whole, fraction, exponent⟩, rest) := by
  cases exponent with
  -- Without an exponent, what follows must not be taken for its mark.
  | none =>
      obtain rfl := hexponent
      cases rest with
      | nil => rfl
      | cons byte rest =>
          obtain ⟨-, -, hsmall, hgreat⟩ := hrest byte rfl
          rw [List.nil_append, readExponent, if_neg (by simp [hsmall, hgreat])]
  | some exponent =>
      cases hexponent with
      | @intro letter negative sign digits hmark hsign hdigits =>
          have hread : exponentSign (sign ++ (digits ++ rest)) = (negative, digits ++ rest) :=
            exponentSign_append hsign hdigits rest
          obtain ⟨first, more, rfl, hfirst, hmore⟩ := hdigits.exists_cons
          obtain ⟨htake, hdrop⟩ := takeWhile_digits hmore hrest.endsDigits
          rw [List.cons_append, List.append_assoc, readExponent, if_pos (by simpa using hmark),
            hread]
          simp only [List.cons_append]
          rw [if_pos hfirst, htake, hdrop]

/-- A fraction, or its lack, is read with what follows it. -/
theorem readFraction_append {numeral : Numeral}
    (hfraction : match fraction with
      | none => point = []
      | some digits => IsDigits digits ∧ point = 0x2e :: digits)
    (hrest : EndsDigits rest) (hpoint : ∀ byte ∈ rest.head?, byte ≠ 0x2e)
    (hread : readExponent unfinished whole fraction rest = .ok (numeral, behind)) :
    readFraction unfinished whole (point ++ rest) = .ok (numeral, behind) := by
  cases fraction with
  -- Without a fraction, what follows must not be taken for its point.
  | none =>
      obtain rfl := hfraction
      rw [List.nil_append, readFraction, hread]
      rintro tail rfl
      exact hpoint 0x2e rfl rfl
  | some digits =>
      obtain ⟨hdigits, rfl⟩ := hfraction
      obtain ⟨first, more, rfl, hfirst, hmore⟩ := hdigits.exists_cons
      obtain ⟨htake, hdrop⟩ := takeWhile_digits hmore hrest
      rw [List.cons_append, List.cons_append, readFraction, if_pos hfirst, htake, hdrop, hread]

/-- **A numeral is read** up to its end. -/
theorem read_append (unfinished : Reason) {numeral : Numeral} (htext : numeral.IsText text)
    (hrest : Delimited rest) :
    Numeral.read unfinished (text ++ rest) = .ok (numeral, rest) := by
  cases htext with
  | @intro whole point mark fraction exponent hwhole hzero hfraction hexponent =>
      -- The digits of the fraction end at the exponent, or where the numeral ends.
      have hmark : ∀ byte ∈ (mark ++ rest).head?, isDigit byte = false ∧ byte ≠ 0x2e := by
        cases exponent with
        | none =>
            obtain rfl := hexponent
            exact fun byte hbyte => ⟨(hrest byte hbyte).1, (hrest byte hbyte).2.1⟩
        | some exponent =>
            cases hexponent with
            | intro hletter hsign hdigits =>
                rintro byte hbyte
                obtain rfl := Option.some.inj hbyte
                rcases hletter with rfl | rfl <;> decide
      -- The digits in front of the point end at the point, or where the others do.
      have hpoint : EndsDigits (point ++ (mark ++ rest)) := by
        cases fraction with
        | none =>
            obtain rfl := hfraction
            exact fun byte hbyte => (hmark byte hbyte).1
        | some digits =>
            obtain ⟨-, rfl⟩ := hfraction
            rintro byte hbyte
            obtain rfl := Option.some.inj hbyte
            rfl
      have hread : readFraction unfinished whole (point ++ (mark ++ rest)) =
          .ok (⟨whole, fraction, exponent⟩, rest) :=
        readFraction_append hfraction (fun byte hbyte => (hmark byte hbyte).1)
          (fun byte hbyte => (hmark byte hbyte).2) (readExponent_append hexponent hrest)
      obtain ⟨first, more, rfl, hfirst, hmore⟩ := hwhole.exists_cons
      rw [List.append_assoc, List.append_assoc, List.cons_append, Numeral.read.eq_def]
      dsimp only
      -- A leading zero is the only digit in front of the point.
      by_cases hstart : first = 0x30
      · obtain rfl : more = [] := (List.cons.inj (hzero (congrArg some hstart))).2
        rw [if_pos hstart, List.nil_append]
        generalize point ++ (mark ++ rest) = behind at hpoint hread ⊢
        cases behind with
        | nil => exact hread
        | cons second behind =>
            dsimp only
            rw [hpoint second rfl]
            exact hread
      · obtain ⟨htake, hdrop⟩ := takeWhile_digits hmore hpoint
        rw [if_neg hstart, if_pos hfirst, htake, hdrop, hread]

end Numeral

/-- The first byte of a text of a numeral is a digit. -/
theorem Numeral.IsText.exists_cons {numeral : Numeral} (htext : numeral.IsText text) :
    ∃ first more, text = first :: more ∧ isDigit first = true := by
  cases htext with
  | intro hwhole =>
      obtain ⟨first, more, rfl, hfirst, -⟩ := hwhole.exists_cons
      exact ⟨first, _, rfl, hfirst⟩

/-- The value of a numeral is read behind its sign. -/
theorem outcome_unsigned (negative : Bool) {numeral : Numeral} (htext : numeral.IsText text)
    (hrest : Delimited rest) :
    outcome (unsigned negative (text ++ rest)) =
      (numeral.evaluate negative).toOption.map (·, rest) := by
  have hread := Numeral.read_append .endInValue htext hrest
  unfold unsigned
  split
  · rename_i fault hfault
    rw [hread] at hfault
    cases hfault
  · rename_i found left hfound
    obtain ⟨rfl, rfl⟩ := Prod.mk.inj (Except.ok.inj (hread.symm.trans hfound))
    split
    · rename_i number hnumber
      rw [hnumber]
      rfl
    · rename_i count hcount
      rw [hcount]
      rfl

/-! ### Scalars -/

/-- The rest of a word is read. -/
theorem word_append (wanted rest : Bytes) : word wanted (wanted ++ rest) = .ok rest := by
  induction wanted with
  | nil => rw [List.nil_append, word]
  | cons byte wanted ih => rw [List.cons_append, word, if_pos rfl, ih]

/-- A word gives the value that it stands for. -/
theorem outcome_wordOf {α : Type} (wanted : Bytes) (value : α) (first : UInt8) (rest : Bytes) :
    outcome (wordOf wanted value first (wanted ++ rest)) = some (value, rest) := by
  have hread := word_append wanted rest
  unfold wordOf
  split
  · rename_i fault hfault
    rw [hread] at hfault
    cases hfault
  · rename_i left hleft
    obtain rfl := Except.ok.inj (hread.symm.trans hleft)
    rfl

/-- The **scalar** that a tree is, unless it is a list or an object. -/
def Tree.scalar? : Tree → Option Scalar
  | .null => some .null
  | .boolean value => some (.boolean value)
  | .number negative numeral => (numeral.evaluate negative).toOption.map .number
  | .string value => some (.string value)
  | .list _ | .object _ => none

/-- A digit is unlike anything else. -/
theorem isDigit_ne {first other : UInt8} (hfirst : isDigit first = true)
    (hother : isDigit other = false) : first ≠ other := by
  rintro rfl
  rw [hfirst] at hother
  cases hother

/-- A scalar that begins with a digit is a number. -/
theorem scalar?_digit {first : UInt8} (hfirst : isDigit first = true) (rest : Bytes) :
    (scalar? (first :: rest)).map outcome =
      some ((outcome (unsigned false (first :: rest))).map (Prod.map .number id)) := by
  have hne : ∀ {other}, isDigit other = false → first ≠ other := isDigit_ne hfirst
  have hbegins : (first = 0x2d || isDigit first) = true := by rw [hfirst, Bool.or_true]
  rw [scalar?, if_neg (hne rfl), if_neg (hne rfl), if_neg (hne rfl), if_neg (hne rfl),
    if_pos hbegins, Option.map_some, outcome_map, Json.number, if_neg (hne rfl)]

/-- A scalar that begins with a minus sign is a number. -/
theorem scalar?_minus (rest : Bytes) :
    (scalar? (0x2d :: rest)).map outcome =
      some ((outcome (unsigned true rest)).map (Prod.map .number id)) :=
  congrArg some (by cases hread : unsigned true rest <;> simp [Json.number, hread] <;> rfl)

/-- A scalar that begins with a quote is a string. -/
theorem scalar?_quote (rest : Bytes) :
    (scalar? (0x22 :: rest)).map outcome =
      some ((outcome (Json.text rest)).map (Prod.map .string id)) :=
  congrArg some (by cases Json.text rest <;> rfl)

/-- A sound number is in range. -/
theorem Tree.Sound.exists_number {numeral : Numeral}
    (hsound : Tree.Sound (.number negative numeral)) :
    ∃ number, numeral.evaluate negative = .ok number ∧
      Tree.scalar? (.number negative numeral) = some (.number number) := by
  have hok := hsound.isOk
  rw [Tree.scalar?]
  cases hnumber : numeral.evaluate negative with
  | error left =>
      rw [hnumber] at hok
      cases hok
  | ok number => exact ⟨number, rfl, rfl⟩

/-- **A scalar is read** to its last byte. -/
theorem outcome_scalar? (htext : tree.IsText text) (hsound : tree.Sound) (hrest : Delimited rest) :
    (scalar? (text ++ rest)).map outcome = tree.scalar?.map fun scalar => some (scalar, rest) := by
  cases htext with
  | null => exact congrArg some (outcome_wordOf [0x75, 0x6c, 0x6c] _ _ rest)
  | true => exact congrArg some (outcome_wordOf [0x72, 0x75, 0x65] _ _ rest)
  | false => exact congrArg some (outcome_wordOf [0x61, 0x6c, 0x73, 0x65] _ _ rest)
  | positive htext =>
      obtain ⟨number, hnumber, hscalar⟩ := hsound.exists_number
      have hread := outcome_unsigned false htext hrest
      obtain ⟨first, more, rfl, hfirst⟩ := htext.exists_cons
      rw [List.cons_append] at hread ⊢
      rw [hscalar, scalar?_digit hfirst, hread, hnumber]
      rfl
  | negative htext =>
      obtain ⟨number, hnumber, hscalar⟩ := hsound.exists_number
      rw [hscalar, List.cons_append, scalar?_minus, outcome_unsigned true htext hrest, hnumber]
      rfl
  | string htext =>
      cases htext with
      | intro hinner =>
          rw [List.cons_append, List.append_assoc, List.singleton_append, scalar?_quote,
            outcome_text hinner]
          rfl
  | emptyList | list | emptyObject | object => rfl

/-! ### Scalars that are passed over -/

/-- A numeral that begins with a digit is passed over. -/
theorem passScalar?_digit {first : UInt8} {numeral : Numeral} (hfirst : isDigit first = true)
    (hread : Numeral.read .invalidNumber (first :: rest) = .ok (numeral, behind)) :
    (passScalar? (first :: rest)).map outcome = some (some ((), behind)) := by
  have hne : ∀ {other}, isDigit other = false → first ≠ other := isDigit_ne hfirst
  rw [passScalar?, if_neg (hne rfl), if_neg (hne rfl), if_neg (hne rfl), if_neg (hne rfl),
    if_neg (hne rfl), if_pos hfirst]
  split
  · rename_i fault hfault
    rw [hread] at hfault
    cases hfault
  · rename_i found left hfound
    obtain ⟨rfl, rfl⟩ := Prod.mk.inj (Except.ok.inj (hread.symm.trans hfound))
    rfl

/-- A numeral is passed over behind a minus sign. -/
theorem passScalar?_minus {numeral : Numeral}
    (hread : Numeral.read .invalidNumber rest = .ok (numeral, behind)) :
    (passScalar? (0x2d :: rest)).map outcome = some (some ((), behind)) := by
  rw [passScalar?, if_neg (by decide), if_neg (by decide), if_neg (by decide), if_neg (by decide),
    if_pos rfl]
  split
  · rename_i fault hfault
    rw [hread] at hfault
    cases hfault
  · rename_i found left hfound
    obtain ⟨rfl, rfl⟩ := Prod.mk.inj (Except.ok.inj (hread.symm.trans hfound))
    rfl

/-- A string is passed over behind its quote. -/
theorem passScalar?_quote (rest : Bytes) :
    (passScalar? (0x22 :: rest)).map outcome = some (outcome (passText rest)) :=
  congrArg some (outcome_behind _)

/-- **A scalar is passed over** to its last byte. -/
theorem outcome_passScalar? (htext : tree.IsText text) (hsound : tree.Sound)
    (hrest : Delimited rest) :
    (passScalar? (text ++ rest)).map outcome = tree.scalar?.map fun _ => some ((), rest) := by
  cases htext with
  | null => exact congrArg some (outcome_wordOf [0x75, 0x6c, 0x6c] _ _ rest)
  | true => exact congrArg some (outcome_wordOf [0x72, 0x75, 0x65] _ _ rest)
  | false => exact congrArg some (outcome_wordOf [0x61, 0x6c, 0x73, 0x65] _ _ rest)
  | positive htext =>
      obtain ⟨number, -, hscalar⟩ := hsound.exists_number
      have hread := Numeral.read_append .invalidNumber htext hrest
      obtain ⟨first, more, rfl, hfirst⟩ := htext.exists_cons
      rw [List.cons_append] at hread ⊢
      rw [hscalar, passScalar?_digit hfirst hread]
      rfl
  | negative htext =>
      obtain ⟨number, -, hscalar⟩ := hsound.exists_number
      rw [hscalar, List.cons_append, passScalar?_minus (Numeral.read_append _ htext hrest)]
      rfl
  | string htext =>
      cases htext with
      | intro hinner =>
          rw [List.cons_append, List.append_assoc, List.singleton_append, passScalar?_quote,
            outcome_passText hinner]
          rfl
  | emptyList | list | emptyObject | object => rfl

/-! ### Scalars of a kind -/

/-- **How a text of a tree begins**: with no blank and no closing bracket, and with an opening
bracket or brace exactly if the tree is a list or an object. -/
theorem Tree.exists_cons_of_isText (htext : tree.IsText text) :
    ∃ first more, text = first :: more ∧ isBlank first = false ∧ first ≠ 0x5d ∧
      (first = 0x5b ↔ ∃ elements, tree = .list elements) ∧
      (first = 0x7b ↔ ∃ members, tree = .object members) := by
  cases htext with
  | null | «true» | «false» => exact ⟨_, _, rfl, by decide, by decide, by simp, by simp⟩
  | negative htext => exact ⟨_, _, rfl, by decide, by decide, by simp, by simp⟩
  | positive htext =>
      obtain ⟨first, more, rfl, hfirst⟩ := htext.exists_cons
      have hne : ∀ {other}, isDigit other = false → first ≠ other := isDigit_ne hfirst
      have hblank : first ≠ 0x20 ∧ first ≠ 0x0a ∧ first ≠ 0x09 ∧ first ≠ 0x0d :=
        ⟨hne rfl, hne rfl, hne rfl, hne rfl⟩
      refine ⟨first, more, rfl, ?_, hne rfl, ?_, ?_⟩
      · simp [isBlank, hblank]
      · simpa using hne rfl
      · simpa using hne rfl
  | string htext =>
      cases htext with
      | intro hinner => exact ⟨_, _, rfl, by decide, by decide, by simp, by simp⟩
  | emptyList | list | emptyObject | object =>
      exact ⟨_, _, rfl, by decide, by decide, by simp, by simp⟩

/-- Blanks in front of a text of a tree are skipped, and nothing else is. -/
theorem skipBlank_text (hblanks : IsBlanks blanks) (htext : tree.IsText text) (rest : Bytes) :
    skipBlank (blanks ++ (text ++ rest)) = text ++ rest := by
  obtain ⟨first, more, rfl, hfirst, -⟩ := Tree.exists_cons_of_isText htext
  rw [skipBlank_append hblanks, List.cons_append, skipBlank_cons hfirst]

variable {α : Type} {wanted : String} {select : Scalar → Option α} {budget : Nat} {bytes : Bytes}

/-- A scalar of a kind is read behind blanks, if it is of the kind. -/
theorem outcome_scalarOf_eq :
    outcome (scalarOf wanted select budget bytes) =
      ((scalar? (skipBlank bytes)).map outcome).join.bind
        fun read => (select read.1).map (·, read.2) := by
  unfold scalarOf
  dsimp only
  split
  · rename_i hnone
    conv_rhs => rw [hnone]
    rfl
  · rename_i first rest hsome
    conv_rhs => rw [hsome]
    cases hscalar : scalar? (first :: rest) with
    | none => rfl
    | some result =>
        cases result with
        | error fault => rfl
        | ok step =>
            dsimp only [Option.map_some, Option.join_some, outcome_ok, Option.bind_some]
            cases select step.value <;> rfl

/-- **A scalar of a kind is read** behind blanks if the tree is a scalar of that kind, and refused
otherwise. -/
theorem outcome_scalarOf (hblanks : IsBlanks blanks) (htext : tree.IsText text)
    (hsound : tree.Sound) (hrest : Delimited rest) :
    outcome (scalarOf wanted select budget (blanks ++ (text ++ rest))) =
      (tree.scalar?.bind select).map (·, rest) := by
  have hread := outcome_scalar? htext hsound hrest
  rw [outcome_scalarOf_eq, skipBlank_text hblanks htext, hread]
  cases tree.scalar? <;> rfl

end Json

end CallForest
