import CallForest.Proofs.Json.Outcome
import CallForest.Proofs.Text.Utf8

/-! # Reading strings

A text of a string is read to its closing quote, whichever way its characters are escaped, and gives
the string. Passing over it goes just as far.

* `Json.outcome_fourHex`, `Json.outcome_escape_number`, `Json.outcome_escape_pair`: escapes by
  number.
* `Json.content_append`, `Json.outcome_text`: reading a string.
* `Json.passContent_append`, `Json.outcome_passText`: passing over it.
* `Json.isString_encode`, `Json.isMembers_next`, `Json.isMembers_last`: strings and members in their
  plainest form. -/

namespace CallForest

namespace Json

variable {number value : Nat} {byte : UInt8} {kept bytes digits high low inner rest : Bytes}
  {character : Char} {characters : List Char}

/-! ### Escapes by number -/

/-- A hexadecimal digit has its value. -/
theorem hexValue?_eq (hdigit : IsHexDigit value byte) : hexValue? byte = some value := by
  simp only [hexValue?, UInt8.le_iff_toNat_le, UInt8.reduceToNat, Bool.and_eq_true,
    decide_eq_true_eq]
  rcases hdigit with ⟨hsmall, hbyte⟩ | ⟨hleast, hmost, hbyte | hbyte⟩
  -- A decimal digit.
  · rw [hbyte, if_pos (by omega)]
    simp
  -- A capital letter.
  · rw [hbyte, if_neg (by omega), if_pos (by omega)]
    congr 1
    omega
  -- A small letter.
  · rw [hbyte, if_neg (by omega), if_neg (by omega), if_pos (by omega)]
    congr 1
    omega

/-- A number of four hexadecimal digits is below 65536. -/
theorem IsFourHex.lt (hdigits : IsFourHex number digits) : number < 0x10000 := by
  cases hdigits with
  | @intro a b c d w x y z ha hb hc hd =>
      have hsmall : ∀ {value : Nat} {byte : UInt8}, IsHexDigit value byte → value < 16 := by
        rintro value byte (⟨hvalue, -⟩ | ⟨-, hvalue, -⟩) <;> omega
      have := hsmall ha
      have := hsmall hb
      have := hsmall hc
      have := hsmall hd
      omega

/-- The number of an escape is read from its four digits. -/
theorem outcome_fourHex (hdigits : IsFourHex number digits) (rest : Bytes) :
    outcome (fourHex (digits ++ rest)) = some (number, rest) := by
  cases hdigits with
  | @intro a b c d w x y z ha hb hc hd =>
      have hnumber : hexNumber? [w, x, y, z] = some (((a * 16 + b) * 16 + c) * 16 + d) := by
        simp [hexNumber?, hexValue?_eq ha, hexValue?_eq hb, hexValue?_eq hc, hexValue?_eq hd]
      simp only [List.cons_append, List.nil_append, fourHex]
      split
      · rename_i found hfound
        rw [outcome_ok, Option.some.inj (hfound.symm.trans hnumber)]
      · rename_i hfound
        rw [hfound] at hnumber
        cases hnumber

/-- A character is no surrogate. -/
theorem surrogates_of_char (character : Char) :
    isFirstSurrogate character.toNat = false ∧ isSecondSurrogate character.toNat = false := by
  have hvalid : character.toNat < 0xd800 ∨ 0xdfff < character.toNat ∧ character.toNat < 0x110000 :=
    character.valid
  simp only [isFirstSurrogate, isSecondSurrogate, Bool.and_eq_false_iff, decide_eq_false_iff_not]
  omega

/-- The bytes of a character that is given by its number. -/
theorem characterBytes_toNat (character : Char) :
    characterBytes character.toNat = String.utf8EncodeChar character := by
  rw [characterBytes, Char.ofNat_toNat]

/-- **The number of a character** is escaped. -/
theorem outcome_escape_number (hdigits : IsFourHex character.toNat digits) (rest : Bytes) :
    outcome (escape (0x75 :: (digits ++ rest))) =
      some (String.utf8EncodeChar character, rest) := by
  obtain ⟨hshorter, hread⟩ := outcome_eq_some_iff.1 (outcome_fourHex hdigits rest)
  -- No character is a surrogate, so that no second number is looked for.
  obtain ⟨hfirst, hsecond⟩ := surrogates_of_char character
  have hescape : outcome (numberEscape (digits ++ rest)) =
      some (characterBytes character.toNat, rest) := by
    simp [numberEscape, hread, hfirst, hsecond, bind, Except.bind, pure, Except.pure]
  rw [escape, if_pos rfl, outcome_behind, hescape, characterBytes_toNat]

/-- **The numbers of a pair of surrogates** are escaped. -/
theorem outcome_escape_pair (hlarge : 0x10000 ≤ character.toNat)
    (hhigh : IsFourHex (0xd800 + (character.toNat - 0x10000) / 0x400) high)
    (hlow : IsFourHex (0xdc00 + (character.toNat - 0x10000) % 0x400) low) (rest : Bytes) :
    outcome (escape (0x75 :: (high ++ 0x5c :: 0x75 :: (low ++ rest)))) =
      some (String.utf8EncodeChar character, rest) := by
  obtain ⟨hshorter, hread⟩ := outcome_eq_some_iff.1
    (outcome_fourHex hhigh (0x5c :: 0x75 :: (low ++ rest)))
  obtain ⟨hshorter', hread'⟩ := outcome_eq_some_iff.1 (outcome_fourHex hlow rest)
  have hmost : character.toNat < 0x110000 := by
    have hvalid : character.toNat < 0xd800 ∨ 0xdfff < character.toNat ∧
      character.toNat < 0x110000 := character.valid
    omega
  -- The offset has twenty bits, ten for each surrogate.
  generalize hoffset : character.toNat - 0x10000 = offset at *
  have hfirst : isSecondSurrogate (0xd800 + offset / 0x400) = false ∧
      isFirstSurrogate (0xd800 + offset / 0x400) = true := by
    simp only [isFirstSurrogate, isSecondSurrogate, Bool.and_eq_false_iff, Bool.and_eq_true,
      decide_eq_false_iff_not, decide_eq_true_eq]
    omega
  have hsecond : isSecondSurrogate (0xdc00 + offset % 0x400) = true := by
    simp only [isSecondSurrogate, Bool.and_eq_true, decide_eq_true_eq]
    omega
  have hnumber : (0xd800 + offset / 0x400 - 0xd800) * 0x400 +
      (0xdc00 + offset % 0x400 - 0xdc00) + 0x10000 = character.toNat := by omega
  have hpair : outcome (secondSurrogate (0xd800 + offset / 0x400)
      (0x5c :: 0x75 :: (low ++ rest))) = some (characterBytes character.toNat, rest) := by
    rw [← hnumber]
    simp [secondSurrogate, hread', hsecond, bind, Except.bind, pure, Except.pure]
  obtain ⟨hshorter'', hread''⟩ := outcome_eq_some_iff.1 hpair
  have hescape : outcome (numberEscape (high ++ 0x5c :: 0x75 :: (low ++ rest))) =
      some (characterBytes character.toNat, rest) := by
    simp [numberEscape, hread, hfirst, hread'', bind, Except.bind, pure, Except.pure, Step.after]
  rw [escape, if_pos rfl, outcome_behind, hescape, characterBytes_toNat]

/-- A letter is escaped. -/
theorem outcome_escape_letter {letter : UInt8} (hletter : (letter, character) ∈ letters)
    (rest : Bytes) :
    outcome (escape (letter :: rest)) = some (String.utf8EncodeChar character, rest) := by
  simp only [letters, List.mem_cons, List.not_mem_nil, or_false, Prod.mk.injEq] at hletter
  rcases hletter with ⟨rfl, rfl⟩ | ⟨rfl, rfl⟩ | ⟨rfl, rfl⟩ | ⟨rfl, rfl⟩ | ⟨rfl, rfl⟩ | ⟨rfl, rfl⟩ |
    ⟨rfl, rfl⟩ | ⟨rfl, rfl⟩ <;> rfl

/-! ### Kept strings -/

/-- The bytes of a character that stands for itself are no quote, no backslash and no control
characters. -/
theorem isOrdinary_of_mem_encodeChar
    (hplain : character ≠ '\"' ∧ character ≠ '\\' ∧ 0x20 ≤ character.toNat)
    (hbyte : byte ∈ String.utf8EncodeChar character) :
    byte ≠ 0x22 ∧ byte ≠ 0x5c ∧ ¬byte < 0x20 := by
  have hne : character.toNat ≠ 0x22 ∧ character.toNat ≠ 0x5c :=
    ⟨fun hsame => hplain.1 (Char.toNat_inj.1 hsame),
      fun hsame => hplain.2.1 (Char.toNat_inj.1 hsame)⟩
  have hnumber : byte.toNat ≠ 0x22 ∧ byte.toNat ≠ 0x5c ∧ 0x20 ≤ byte.toNat := by
    -- A byte of a character of several bytes is far above all of these.
    obtain hsame | hlarge := Utf8.toNat_of_mem_encodeChar hbyte
    · rw [hsame]
      exact ⟨hne.1, hne.2, hplain.2.2⟩
    · omega
  rw [UInt8.lt_iff_toNat_lt, ← UInt8.toNat_inj.ne, ← UInt8.toNat_inj.ne]
  exact ⟨hnumber.1, hnumber.2.1, Nat.not_lt.2 hnumber.2.2⟩

/-- A character that stands for itself is kept. -/
theorem content_ordinary (hordinary : ∀ byte ∈ bytes, byte ≠ 0x22 ∧ byte ≠ 0x5c ∧ ¬byte < 0x20)
    (kept rest : Bytes) : content kept (bytes ++ rest) = content (bytes.reverse ++ kept) rest := by
  induction bytes generalizing kept with
  | nil => rfl
  | cons byte bytes ih =>
      obtain ⟨⟨hquote, hbackslash, hcontrol⟩, hrest⟩ := List.forall_mem_cons.1 hordinary
      rw [List.cons_append, content, if_neg hquote, if_neg hbackslash, if_neg hcontrol, ih hrest,
        List.reverse_cons, List.append_assoc, List.singleton_append]

/-- An escape is kept as the bytes of its character. -/
theorem content_escape {behind : Bytes}
    (hescape : outcome (escape bytes) = some (String.utf8EncodeChar character, behind))
    (kept : Bytes) :
    content kept (0x5c :: bytes) =
      content ((String.utf8EncodeChar character).reverse ++ kept) behind := by
  obtain ⟨hshorter, hread⟩ := outcome_eq_some_iff.1 hescape
  rw [content, if_neg (by decide), if_pos rfl, hread]

/-- A character that **needs no escape**. -/
def isPlain (character : Char) : Bool :=
  character ≠ '\"' ∧ character ≠ '\\' ∧ 0x20 ≤ character.toNat

/-- Characters that need no escape may stand for themselves. -/
theorem isContent_encode (hplain : characters.all isPlain = true) :
    IsContent characters (Utf8.encode characters) := by
  induction characters with
  | nil => exact .nil
  | cons character characters ih =>
      rw [List.all_cons, Bool.and_eq_true] at hplain
      exact .plain (of_decide_eq_true hplain.1) (ih hplain.2)

/-- A string whose characters need no escape may stand in quotes as it is. -/
theorem isString_encode (value : String) (hplain : value.toList.all isPlain = true) :
    IsString value (0x22 :: (Utf8.encode value.toList ++ [0x22])) :=
  .intro (isContent_encode hplain)

/-- **Characters are read** up to the closing quote, however they are written. -/
theorem content_append (hcontent : IsContent characters inner) (kept rest : Bytes) :
    content kept (inner ++ 0x22 :: rest) =
      .ok (kept.reverse ++ Utf8.encode characters, rest) := by
  -- What is kept stands in reverse, and the bytes of the next character go in front of it.
  have hstep : ∀ {character : Char} {characters : List Char} {kept : Bytes},
      ((String.utf8EncodeChar character).reverse ++ kept).reverse ++ Utf8.encode characters =
        kept.reverse ++ Utf8.encode (character :: characters) := by
    intro character characters kept
    rw [List.reverse_append, List.reverse_reverse, List.append_assoc, Utf8.encode, Utf8.encode,
      List.flatMap_cons]
  induction hcontent generalizing kept with
  | nil => rw [List.nil_append, content, if_pos rfl, Utf8.encode, List.flatMap_nil,
      List.append_nil]
  | plain hplain hrest ih =>
      rw [List.append_assoc, content_ordinary fun _ => isOrdinary_of_mem_encodeChar hplain, ih,
        hstep]
  | letter hletter hrest ih =>
      rw [List.cons_append, List.cons_append, content_escape (outcome_escape_letter hletter _), ih,
        hstep]
  | number hdigits hrest ih =>
      rw [List.cons_append, List.cons_append, List.append_assoc,
        content_escape (outcome_escape_number hdigits _), ih, hstep]
  | pair hlarge hhigh hlow hrest ih =>
      simp only [List.cons_append, List.append_assoc]
      rw [content_escape (outcome_escape_pair hlarge hhigh hlow _), ih, hstep]

/-- **A string is read**, however it is written. -/
theorem outcome_text {value : String} (hcontent : IsContent value.toList inner) (rest : Bytes) :
    outcome (text (inner ++ 0x22 :: rest)) = some (value, rest) := by
  have hread := content_append hcontent [] rest
  rw [List.reverse_nil, List.nil_append] at hread
  unfold text
  split
  · rename_i fault hfault
    rw [hread] at hfault
    cases hfault
  · rename_i kept left hkept
    obtain ⟨rfl, rfl⟩ := Prod.mk.inj (Except.ok.inj (hread.symm.trans hkept))
    rw [Utf8.decode_encode, String.ofList_toList]
    rfl

/-! ### Strings that are passed over -/

/-- Characters that stand for themselves are passed over. -/
theorem passContent_ordinary (hordinary : ∀ byte ∈ bytes, byte ≠ 0x22 ∧ byte ≠ 0x5c ∧ ¬byte < 0x20)
    (rest : Bytes) : passContent (bytes ++ rest) = passContent rest := by
  induction bytes with
  | nil => rfl
  | cons byte bytes ih =>
      obtain ⟨⟨hquote, hbackslash, hcontrol⟩, hrest⟩ := List.forall_mem_cons.1 hordinary
      rw [List.cons_append, passContent.eq_def]
      simp only [if_neg hquote, if_neg hbackslash, if_neg hcontrol, ih hrest]

/-- An escape by number is passed over. -/
theorem passContent_number (hdigits : IsFourHex number digits) (rest : Bytes) :
    passContent (0x5c :: 0x75 :: (digits ++ rest)) = passContent rest := by
  -- The number is not looked at, so that a pair of surrogates is two escapes like any others.
  obtain ⟨hshorter, hread⟩ := outcome_eq_some_iff.1 (outcome_fourHex hdigits rest)
  rw [passContent, if_neg (by decide), if_pos rfl]
  simp only [if_pos]
  rw [hread]

/-- An escape by letter is passed over. -/
theorem passContent_letter {letter : UInt8} (hletter : (letter, character) ∈ letters)
    (rest : Bytes) : passContent (0x5c :: letter :: rest) = passContent rest := by
  have hknown : letter ≠ 0x75 ∧ (letterEscape? letter).isSome := by
    simp only [letters, List.mem_cons, List.not_mem_nil, or_false, Prod.mk.injEq] at hletter
    rcases hletter with ⟨rfl, -⟩ | ⟨rfl, -⟩ | ⟨rfl, -⟩ | ⟨rfl, -⟩ | ⟨rfl, -⟩ | ⟨rfl, -⟩ |
      ⟨rfl, -⟩ | ⟨rfl, -⟩ <;> decide
  rw [passContent, if_neg (by decide), if_pos rfl]
  simp only [if_neg hknown.1, if_pos hknown.2]

/-- **Characters are passed over** up to the closing quote, however they are written. -/
theorem passContent_append (hcontent : IsContent characters inner) (rest : Bytes) :
    passContent (inner ++ 0x22 :: rest) = .ok rest := by
  induction hcontent with
  | nil =>
      rw [List.nil_append, passContent.eq_def]
      rfl
  | plain hplain hrest ih =>
      rw [List.append_assoc, passContent_ordinary fun _ => isOrdinary_of_mem_encodeChar hplain, ih]
  | letter hletter hrest ih =>
      rw [List.cons_append, List.cons_append, passContent_letter hletter, ih]
  | number hdigits hrest ih =>
      rw [List.cons_append, List.cons_append, List.append_assoc, passContent_number hdigits, ih]
  | pair hlarge hhigh hlow hrest ih =>
      simp only [List.cons_append, List.append_assoc]
      rw [passContent_number hhigh, passContent_number hlow, ih]

/-- **A string is passed over**, however it is written. -/
theorem outcome_passText (hcontent : IsContent characters inner) (rest : Bytes) :
    outcome (passText (inner ++ 0x22 :: rest)) = some ((), rest) := by
  have hread := passContent_append hcontent rest
  unfold passText
  split
  · rename_i fault hfault
    rw [hread] at hfault
    cases hfault
  · rename_i left hleft
    obtain rfl := Except.ok.inj (hread.symm.trans hleft)
    rfl

/-! ### Members without blanks -/

variable {tree : Tree} {members : List (String × Tree)} {text : Bytes}

/-- A member without blanks, in front of others. -/
theorem isMembers_next (name : String) (hname : name.toList.all isPlain = true)
    (htext : tree.IsText text) (hrest : IsMembers Tree.IsText members rest) :
    IsMembers Tree.IsText ((name, tree) :: members)
      (0x22 :: (Utf8.encode name.toList ++ 0x22 :: 0x3a :: (text ++ 0x2c :: rest))) := by
  simpa using IsMembers.next isBlanks_nil (isString_encode name hname) isBlanks_nil isBlanks_nil
    htext isBlanks_nil hrest

/-- The last member without blanks. -/
theorem isMembers_last (name : String) (hname : name.toList.all isPlain = true)
    (htext : tree.IsText text) :
    IsMembers Tree.IsText [(name, tree)]
      (0x22 :: (Utf8.encode name.toList ++ 0x22 :: 0x3a :: text)) := by
  simpa using IsMembers.last isBlanks_nil (isString_encode name hname) isBlanks_nil isBlanks_nil
    htext isBlanks_nil

end Json

end CallForest
