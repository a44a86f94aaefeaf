import CallForest.Proofs.Toml.Grammar
import Mathlib.Tactic.Ring

/-! # Reading strings

A string is read to its closing marks, whichever way it is written, and gives its characters.

* `Toml.Takes`: what a reader takes.
* `Toml.skipBlankLines_append`: what is left behind blank lines.
* `Toml.takes_escape`: escapes are read.
* `Toml.takes_stringBody`, `Toml.takes_string`: strings are read. -/

namespace CallForest

namespace Toml

variable {α : Type} {value rest behind text chars blanks line lines : List Char} {first : Char}
  {delimiter : Delimiter} {number : Nat}

/-! ### Readers -/

/-- **What a reader takes**: a value, and the characters that are left behind it. -/
def Takes (reader : Reader α) (chars : List Char) (value : α) (rest : List Char) : Prop :=
  ∃ hshorter, reader chars = .ok ⟨value, rest, hshorter⟩

/-! ### Between words -/

/-- A blank is one that is skipped. -/
theorem isBlank_iff : isBlank first = true ↔ first = ' ' ∨ first = '\t' := by
  simp [isBlank]

/-- Blanks are skipped. -/
theorem skipBlank_append (hblanks : IsBlanks blanks) :
    skipBlank (blanks ++ rest) = skipBlank rest :=
  List.dropWhile_append_of_pos fun blank hblank => isBlank_iff.2 (hblanks blank hblank)

/-- Something that is no blank is not skipped. -/
theorem skipBlank_cons (hspace : first ≠ ' ') (htab : first ≠ '\t') :
    skipBlank (first :: rest) = first :: rest := by
  rw [skipBlank, List.dropWhile_cons_of_neg]
  simp [isBlank, hspace, htab]

/-- A newline is found. -/
theorem newline?_append (hline : IsNewline line) : newline? (line ++ rest) = some rest := by
  cases hline <;> rfl

/-- No newline is found where another character stands. -/
theorem newline?_cons (hline : first ≠ '\n') (hreturn : first ≠ '\r') :
    newline? (first :: rest) = none := by
  rw [newline?.eq_def]
  split
  · simp_all
  · simp_all
  · rfl

/-- A newline is no blank. -/
theorem skipBlank_newline (hline : IsNewline line) : skipBlank (line ++ rest) = line ++ rest := by
  cases hline <;> rfl

/-- Blank lines are skipped. -/
theorem skipBlankLines_append (hlines : IsBlankLines lines) (hrest : EndsBlankLines rest) :
    skipBlankLines (lines ++ rest) = rest := by
  induction hlines with
  | nil =>
      cases rest with
      | nil => rw [List.nil_append, skipBlankLines]
      | cons first rest =>
          obtain ⟨hspace, htab, hline, hreturn⟩ := hrest first rfl
          have hblank : ¬ isBlank first = true := by simp [isBlank, hspace, htab]
          rw [List.nil_append, skipBlankLines, if_neg hblank]
          split
          · rename_i found hfound
            rw [newline?_cons hline hreturn] at hfound
            cases hfound
          · rfl
  | blank hfirst _ ih => rw [List.cons_append, skipBlankLines, if_pos (isBlank_iff.2 hfirst), ih]
  | newline hline _ ih =>
      rw [List.append_assoc]
      cases hline with
      | plain =>
          show skipBlankLines ('\n' :: _) = _
          rw [skipBlankLines, if_neg (by decide)]
          exact ih
      | returned =>
          show skipBlankLines ('\r' :: '\n' :: _) = _
          rw [skipBlankLines, if_neg (by decide)]
          exact ih

/-! ### Digits -/

/-- Characters are in the order of their code points. -/
theorem char_le_iff {last : Char} : first ≤ last ↔ first.toNat ≤ last.toNat := by
  rw [Char.le_def, UInt32.le_iff_toNat_le]
  rfl

/-- The decimal digits stand side by side. -/
theorem isDigit_iff :
    first.isDigit = true ↔ '0'.toNat ≤ first.toNat ∧ first.toNat ≤ '9'.toNat := by
  simp only [Char.isDigit, Bool.and_eq_true, decide_eq_true_eq, ge_iff_le, UInt32.le_iff_toNat_le]
  rfl

/-- The value of a digit is found. -/
theorem hexDigit?_eq {value : Nat} {digit : Char} (hdigit : IsHexDigit value digit) :
    hexDigit? digit = some value := by
  have hzero : '0'.toNat = 48 ∧ '9'.toNat = 57 := ⟨rfl, rfl⟩
  have hcapital : 'A'.toNat = 65 ∧ 'F'.toNat = 70 := ⟨rfl, rfl⟩
  have hsmall : 'a'.toNat = 97 ∧ 'f'.toNat = 102 := ⟨rfl, rfl⟩
  simp only [hexDigit?, isDigit_iff, char_le_iff, Bool.and_eq_true, decide_eq_true_eq]
  rcases hdigit with ⟨hless, hdigit⟩ | ⟨hleast, hmost, hdigit | hdigit⟩
  -- A decimal digit.
  · rw [if_pos (by omega), hdigit, Nat.add_sub_cancel_left]
  -- A capital letter.
  · rw [if_neg (by omega), if_neg (by omega), if_pos (by omega)]
    congr 1
    omega
  -- A small letter.
  · rw [if_neg (by omega), if_pos (by omega)]
    congr 1
    omega

/-- Digits make up their number one after the other. -/
theorem foldl_eq_ofDigits (radix start : Nat) (values : List Nat) :
    values.foldl (fun number value => number * radix + value) start =
      Nat.ofDigits radix (values.reverse ++ [start]) := by
  induction values generalizing start with
  | nil => exact Nat.ofDigits_singleton.symm
  | cons value values ih =>
      rw [List.foldl_cons, ih, List.reverse_cons, List.append_assoc, Nat.ofDigits_append,
        Nat.ofDigits_append]
      simp only [List.singleton_append, Nat.ofDigits_cons, Nat.ofDigits_nil]
      ring

/-- A number is found from the values of its digits. -/
theorem IsNumber.foldl_eq {radix : Nat} {digits : List Char}
    (hdigits : IsNumber radix number digits) :
    ∃ values, digits.mapM hexDigit? = some values ∧ values.length = digits.length ∧
      values.foldl (fun number value => number * radix + value) 0 = number := by
  obtain ⟨values, hvalues, -, hnumber⟩ := hdigits
  refine ⟨values, ?_, hvalues.length_eq, ?_⟩
  · clear hnumber
    induction hvalues with
    | nil => rfl
    | cons hdigit _ ih =>
        rw [List.mapM_cons, hexDigit?_eq hdigit, ih]
        rfl
  · rw [foldl_eq_ofDigits, Nat.ofDigits_append, hnumber]
    simp

/-! ### Escapes -/

/-- The character of a code point is read. -/
theorem takes_longEscape {character : Char} {digits : List Char} (letter : Char)
    (hdigits : IsNumber 16 character.toNat digits) (rest : List Char) :
    ∃ hshorter,
      longEscape digits.length letter (digits ++ rest) = .ok ⟨character, rest, hshorter⟩ := by
  obtain ⟨values, hvalues, hlength, hnumber⟩ := hdigits.foldl_eq
  have hscalar : scalar? character.toNat = some character := by
    have hvalid : character.toNat.isValidChar := character.valid
    rw [scalar?, if_pos hvalid, Char.ofNat_toNat]
  have hpoint : codePoint? digits.length (digits ++ rest) = some character := by
    rw [codePoint?, List.take_left, hvalues]
    simp only [Option.bind_eq_bind, Option.bind_some]
    rw [if_pos hlength, hnumber, hscalar]
  refine ⟨?_, ?_⟩
  · rw [List.length_cons, List.length_append]
    omega
  · rw [longEscape, hpoint]
    simp

/-- An **escape is read**. -/
theorem takes_escape {character : Char} (hescape : IsEscape character text) (rest : List Char) :
    Takes escape (text ++ rest) character rest := by
  cases hescape with
  | letter hletter =>
      simp only [escapeLetters, List.mem_cons, List.not_mem_nil, or_false, Prod.mk.injEq] at hletter
      rcases hletter with ⟨rfl, rfl⟩ | ⟨rfl, rfl⟩ | ⟨rfl, rfl⟩ | ⟨rfl, rfl⟩ | ⟨rfl, rfl⟩ |
        ⟨rfl, rfl⟩ | ⟨rfl, rfl⟩ <;> exact ⟨_, rfl⟩
  | short hlength hdigits =>
      obtain ⟨hshorter, hread⟩ := takes_longEscape 'u' hdigits rest
      rw [hlength] at hread
      exact ⟨hshorter, hread⟩
  | long hlength hdigits =>
      obtain ⟨hshorter, hread⟩ := takes_longEscape 'U' hdigits rest
      rw [hlength] at hread
      exact ⟨hshorter, hread⟩

/-! ### Strings -/

/-- Characters that may stand for themselves in strings and in comments. -/
theorem isStringChar_iff : isStringChar first = true ↔ IsTextChar first := by
  show isCommentChar first = true ↔ IsTextChar first
  have hbounds : ' '.toNat = 0x20 ∧ '~'.toNat = 0x7e := ⟨rfl, rfl⟩
  simp only [isCommentChar, IsTextChar, char_le_iff, Bool.or_eq_true, Bool.and_eq_true,
    decide_eq_true_eq]
  constructor
  · rintro ((htab | hprinted) | hlarge)
    · exact .inl htab
    · exact .inr (by omega)
    · exact .inr (by omega)
  · rintro (htab | ⟨hprinted, hdelete⟩)
    · exact .inl (.inl htab)
    · rcases Nat.lt_or_ge first.toNat 0x7f with hsmall | hlarge
      · exact .inl (.inr (by omega))
      · exact .inr (by omega)

/-- Marks are no backslashes. -/
theorem Delimiter.mark_ne (delimiter : Delimiter) : delimiter.mark ≠ '\\' := by
  rw [mark]
  split <;> decide

section

variable {value : String} {read : List Char}

/-- A character that stands for itself is read. -/
theorem takes_plain (hchar : IsTextChar first) (hmark : first ≠ delimiter.mark)
    (hslash : first ≠ '\\' ∨ delimiter.literal = true)
    (hrest : Takes (stringBody delimiter (first :: read)) rest value behind) :
    Takes (stringBody delimiter read) (first :: rest) value behind := by
  obtain ⟨hshorter, hread⟩ := hrest
  have hnoEscape : ¬ (first = '\\' && !delimiter.literal) = true := by
    rcases hslash with hslash | hliteral
    · simp [hslash]
    · simp [hliteral]
  refine ⟨Nat.lt_succ_of_lt hshorter, ?_⟩
  rw [stringBody, if_neg hmark, if_neg hnoEscape, if_pos (isStringChar_iff.2 hchar), hread]
  rfl

/-- What begins a newline in a long string is read with it. -/
theorem takes_newline (hlong : delimiter.long = true) (hline : IsNewline line)
    (hrest : Takes (stringBody delimiter ('\n' :: read)) rest value behind) :
    Takes (stringBody delimiter read) (line ++ rest) value behind := by
  obtain ⟨hshorter, hread⟩ := hrest
  have hmark : '\n' ≠ delimiter.mark ∧ '\r' ≠ delimiter.mark := by
    rw [Delimiter.mark]
    split <;> decide
  -- Neither character of a newline stands for itself, so that a newline is looked for.
  have hstep : ∀ {first : Char} {more : List Char}, first ≠ delimiter.mark → first ≠ '\\' →
      ¬ isStringChar first = true → newline? (first :: more) = some rest →
        Takes (stringBody delimiter read) (first :: more) value behind := by
    intro first more hmark hslash hchar hnewline
    have hfewer := length_newline?_lt hnewline
    refine ⟨hshorter.trans hfewer, ?_⟩
    rw [stringBody, if_neg hmark, if_neg (by simp [hslash]), if_neg hchar]
    split
    · rename_i found hfound
      rw [if_pos hlong, hnewline, Option.some_inj] at hfound
      subst hfound
      rw [hread]
      rfl
    · rename_i hfound
      rw [if_pos hlong, hnewline] at hfound
      cases hfound
  cases hline with
  | plain => exact hstep hmark.1 (by decide) (by decide) rfl
  | returned => exact hstep hmark.2 (by decide) (by decide) rfl

/-- A line that is joined to the next one is passed over. -/
theorem takes_joined (hlong : delimiter.long = true) (hliteral : delimiter.literal = false)
    (hblanks : IsBlanks blanks) (hline : IsNewline line) (hlines : IsBlankLines lines)
    (hends : EndsBlankLines rest) (hrest : Takes (stringBody delimiter read) rest value behind) :
    Takes (stringBody delimiter read) ('\\' :: (blanks ++ (line ++ (lines ++ rest)))) value
      behind := by
  obtain ⟨hshorter, hread⟩ := hrest
  have hjoined : joinedLine? (blanks ++ (line ++ (lines ++ rest))) = some rest := by
    rw [joinedLine?, skipBlank_append hblanks, skipBlank_newline hline, newline?_append hline,
      Option.map_some, skipBlankLines_append hlines hends]
  have hfewer := length_joinedLine?_lt hjoined
  refine ⟨Nat.lt_succ_of_lt (hshorter.trans hfewer), ?_⟩
  rw [stringBody, if_neg delimiter.mark_ne.symm, if_pos (by simp [hliteral])]
  split
  · rename_i found hfound
    rw [if_pos hlong, hjoined, Option.some_inj] at hfound
    subst hfound
    rw [hread]
    rfl
  · rename_i hfound
    rw [if_pos hlong, hjoined] at hfound
    cases hfound

/-- No escape begins like the rest of a line. -/
theorem IsEscape.joinedLine?_eq {character : Char} (hescape : IsEscape character text) :
    joinedLine? (text ++ rest) = none := by
  have hfirst : ∃ first more, text = first :: more ∧ first ≠ ' ' ∧ first ≠ '\t' ∧ first ≠ '\n' ∧
      first ≠ '\r' := by
    cases hescape with
    | @letter letter hletter =>
        refine ⟨letter, [], rfl, ?_⟩
        simp only [escapeLetters, List.mem_cons, List.not_mem_nil, or_false, Prod.mk.injEq]
          at hletter
        rcases hletter with ⟨rfl, -⟩ | ⟨rfl, -⟩ | ⟨rfl, -⟩ | ⟨rfl, -⟩ | ⟨rfl, -⟩ | ⟨rfl, -⟩ |
          ⟨rfl, -⟩ <;> decide
    | short hlength hdigits => exact ⟨_, _, rfl, by decide⟩
    | long hlength hdigits => exact ⟨_, _, rfl, by decide⟩
  obtain ⟨first, more, rfl, hspace, htab, hline, hreturn⟩ := hfirst
  rw [List.cons_append, joinedLine?, skipBlank_cons hspace htab, newline?_cons hline hreturn]
  rfl

/-- A character that is escaped is read. -/
theorem takes_escaped {character : Char} (hliteral : delimiter.literal = false)
    (hescape : IsEscape character text)
    (hrest : Takes (stringBody delimiter (character :: read)) rest value behind) :
    Takes (stringBody delimiter read) ('\\' :: (text ++ rest)) value behind := by
  obtain ⟨hshorter, hread⟩ := hrest
  obtain ⟨hfewer, hcharacter⟩ := takes_escape hescape rest
  refine ⟨Nat.lt_succ_of_lt (hshorter.trans hfewer), ?_⟩
  rw [stringBody, if_neg delimiter.mark_ne.symm, if_pos (by simp [hliteral])]
  split
  · rename_i found hfound
    rw [hescape.joinedLine?_eq, ite_self] at hfound
    cases hfound
  · rw [hcharacter]
    simp only
    rw [hread]
    rfl

/-- A mark in a long string is read, where no more than one further mark stands behind it. -/
theorem takes_mark (hlong : delimiter.long = true)
    (hmarks : (rest.takeWhile (· = delimiter.mark)).length < 2)
    (hstand : marksMayStand delimiter.literal (rest.dropWhile (· = delimiter.mark)) = true)
    (hrest : Takes (stringBody delimiter (delimiter.mark :: read)) rest value behind) :
    Takes (stringBody delimiter read) (delimiter.mark :: rest) value behind := by
  obtain ⟨hshorter, hread⟩ := hrest
  have hclose : closeLong? delimiter.mark rest = none := by
    rw [closeLong?]
    exact if_pos hmarks
  refine ⟨Nat.lt_succ_of_lt hshorter, ?_⟩
  rw [stringBody, if_pos rfl, if_pos hlong]
  split
  · rename_i own found hfound
    rw [hclose] at hfound
    cases hfound
  · rw [if_pos hstand, hread]
    rfl

/-- What is found where a long string closes: up to two marks of its own, and what is behind it. -/
theorem closeLong?_replicate {mark : Char} {count : Nat} (hcount : count ≤ 2)
    (hbehind : ∀ first ∈ behind.head?, first ≠ mark) :
    closeLong? mark (List.replicate (count + 2) mark ++ behind) =
      some (List.replicate count mark, behind) := by
  have hmarks : ((List.replicate (count + 2) mark ++ behind).takeWhile (· = mark)).length =
      count + 2 := by
    have hnone : behind.takeWhile (· = mark) = [] := by
      cases behind with
      | nil => rfl
      | cons first behind => exact List.takeWhile_cons_of_neg (by simpa using hbehind first rfl)
    rw [List.takeWhile_append_of_pos (by simp), hnone, List.append_nil, List.length_replicate]
  have hdrop : (List.replicate (count + 2) mark ++ behind).drop (min (count + 2) 4) = behind := by
    rw [Nat.min_eq_left (by omega)]
    exact List.drop_left' List.length_replicate
  rw [closeLong?, hmarks, if_neg (by omega), hdrop, Nat.add_sub_cancel, Nat.min_eq_left hcount]

/-- The marks that close a long string are read, with those of its own. -/
theorem takes_closeLong {count : Nat} (hlong : delimiter.long = true) (hcount : count ≤ 2)
    (hbehind : ∀ first ∈ behind.head?, first ≠ delimiter.mark) :
    Takes (stringBody delimiter read) (List.replicate (count + 3) delimiter.mark ++ behind)
      (String.ofList (read.reverse ++ List.replicate count delimiter.mark)) behind := by
  have hclose := closeLong?_replicate hcount hbehind
  have hfewer := length_closeLong?_le hclose
  rw [List.replicate_succ, List.cons_append]
  refine ⟨Nat.lt_succ_of_le hfewer, ?_⟩
  rw [stringBody, if_pos rfl, if_pos hlong]
  split
  · rename_i own found hfound
    obtain ⟨rfl, rfl⟩ := Prod.mk.inj (Option.some.inj (hclose.symm.trans hfound))
    simp
  · rename_i hfound
    rw [hclose] at hfound
    cases hfound

end

/-- There is something in front of the end of a string, its marks at least. -/
theorem IsBody.exists_cons (hbody : IsBody delimiter chars text) :
    ∃ first more, text = first :: more := by
  induction hbody with
  | close hlong => exact ⟨_, _, rfl⟩
  | closeLong hlong hcount => exact ⟨_, _, List.replicate_succ⟩
  | plain hchar hmark hslash _ _ => exact ⟨_, _, rfl⟩
  | escape hliteral hescape _ _ => exact ⟨_, _, rfl⟩
  | newline hlong hline _ _ => cases hline <;> exact ⟨_, _, rfl⟩
  | joined hlong hliteral hblanks hline hlines htext _ _ => exact ⟨_, _, rfl⟩
  | marks hlong hcount htext _ _ => rcases hcount with rfl | rfl <;> exact ⟨_, _, rfl⟩

/-- What a string goes on with may stand behind marks, unless it begins with one. -/
theorem IsBody.marksMayStand (hbody : IsBody delimiter chars text)
    (htext : text.head? ≠ some delimiter.mark) (behind : List Char) :
    Toml.marksMayStand delimiter.literal (text ++ behind) = true := by
  cases hbody with
  | close hlong => exact absurd rfl htext
  | closeLong hlong hcount => exact absurd rfl htext
  | plain hchar hmark hslash hrest =>
      rw [List.cons_append, Toml.marksMayStand, isStringChar_iff.2 hchar]
      simp
  | escape hliteral hescape hrest => simp [Toml.marksMayStand, hliteral]
  | newline hlong hline hrest =>
      cases hline <;> simp [Toml.marksMayStand, newline?]
  | joined hlong hliteral hblanks hline hlines hends hrest =>
      simp [Toml.marksMayStand, hliteral]
  | marks hlong hcount hhead hrest => rcases hcount with rfl | rfl <;> exact absurd rfl htext

/-- One or two marks within a long string are read. -/
theorem takes_marks {value : String} {read : List Char} {count : Nat}
    (hlong : delimiter.long = true) (hcount : count = 1 ∨ count = 2)
    (hhead : rest.head? ≠ some delimiter.mark)
    (hstand : Toml.marksMayStand delimiter.literal rest = true)
    (hrest : Takes (stringBody delimiter (List.replicate count delimiter.mark ++ read)) rest value
      behind) :
    Takes (stringBody delimiter read) (List.replicate count delimiter.mark ++ rest) value
      behind := by
  have hnone : rest.takeWhile (· = delimiter.mark) = [] ∧
      rest.dropWhile (· = delimiter.mark) = rest := by
    cases rest with
    | nil => exact ⟨rfl, rfl⟩
    | cons first rest =>
        have hfirst : ¬ decide (first = delimiter.mark) = true := by simpa using hhead
        exact ⟨List.takeWhile_cons_of_neg hfirst, List.dropWhile_cons_of_neg hfirst⟩
  have hlast : ∀ {read : List Char},
      Takes (stringBody delimiter (delimiter.mark :: read)) rest value behind →
        Takes (stringBody delimiter read) (delimiter.mark :: rest) value behind :=
    takes_mark hlong (by rw [hnone.1]; decide) (by rw [hnone.2]; exact hstand)
  rcases hcount with rfl | rfl
  · exact hlast hrest
  -- The first of two marks has one more behind it.
  · refine takes_mark hlong ?_ ?_ (hlast hrest)
    · simp [hnone.1]
    · simpa [hnone.2] using hstand

/-- **What stands in a string is read** up to the closing marks. -/
theorem takes_stringBody (hbody : IsBody delimiter chars text)
    (hbehind : delimiter.long = true → ∀ first ∈ behind.head?, first ≠ delimiter.mark)
    (read : List Char) :
    Takes (stringBody delimiter read) (text ++ behind) (String.ofList (read.reverse ++ chars))
      behind := by
  -- What has been read stands in reverse, with the last character in front.
  have hstep : ∀ {read chars : List Char} {character : Char},
      (character :: read).reverse ++ chars = read.reverse ++ character :: chars := by
    intro read chars character
    rw [List.reverse_cons, List.append_assoc, List.singleton_append]
  induction hbody generalizing read with
  | close hlong =>
      refine ⟨Nat.lt_succ_self _, ?_⟩
      rw [List.append_nil]
      show stringBody delimiter read (delimiter.mark :: behind) = _
      rw [stringBody, if_pos rfl, if_neg (by simp [hlong])]
      rfl
  | closeLong hlong hcount => exact takes_closeLong hlong hcount (hbehind hlong)
  | plain hchar hmark hslash _ ih =>
      rw [← hstep]
      exact takes_plain hchar hmark hslash (ih _)
  | escape hliteral hescape _ ih =>
      rw [← hstep, List.cons_append, List.append_assoc]
      exact takes_escaped hliteral hescape (ih _)
  | newline hlong hline _ ih =>
      rw [← hstep, List.append_assoc]
      exact takes_newline hlong hline (ih _)
  | joined hlong hliteral hblanks hline hlines htext hrest ih =>
      simp only [List.cons_append, List.append_assoc]
      refine takes_joined hlong hliteral hblanks hline hlines ?_ (ih _)
      obtain ⟨first, more, rfl⟩ := hrest.exists_cons
      exact htext
  | marks hlong hcount htext hrest ih =>
      have hread : ∀ {count : Nat} {read chars : List Char},
          (List.replicate count delimiter.mark ++ read).reverse ++ chars =
            read.reverse ++ (List.replicate count delimiter.mark ++ chars) := by
        intro count read chars
        rw [List.reverse_append, List.reverse_replicate, List.append_assoc]
      rw [← hread, List.append_assoc]
      refine takes_marks hlong hcount ?_ (hrest.marksMayStand htext behind) (ih _)
      obtain ⟨first, more, rfl⟩ := hrest.exists_cons
      exact htext

/-- What stands behind a string, which begins with no mark. -/
def EndsString (rest : List Char) : Prop := ∀ first ∈ rest.head?, first ≠ '"' ∧ first ≠ '\''

/-- A string on one line does not begin like a long one. -/
theorem IsBody.ne_marks (hbody : IsBody delimiter chars text) (hlong : delimiter.long = false)
    (hrest : EndsString rest) (tail : List Char) :
    text ++ rest ≠ delimiter.mark :: delimiter.mark :: tail := by
  intro hmarks
  cases hbody with
  | close _ =>
      obtain rfl : rest = delimiter.mark :: tail := (List.cons.inj hmarks).2
      have hfirst := hrest delimiter.mark rfl
      rw [Delimiter.mark] at hfirst
      split at hfirst
      · exact hfirst.2 rfl
      · exact hfirst.1 rfl
  | closeLong hlong' _ => simp [hlong] at hlong'
  | plain _ hmark _ _ => exact hmark (List.cons.inj hmarks).1
  | escape _ _ _ => exact delimiter.mark_ne (List.cons.inj hmarks).1.symm
  | newline hlong' _ _ => simp [hlong] at hlong'
  | joined hlong' _ _ _ _ _ _ => simp [hlong] at hlong'
  | marks hlong' _ _ _ => simp [hlong] at hlong'

/-- A delimiter on one line is found. -/
theorem delimiter?_short {literal : Bool} {more : List Char}
    (hmore : ∀ tail, more ≠ (Delimiter.mk literal false).mark ::
      (Delimiter.mk literal false).mark :: tail) :
    delimiter? ((Delimiter.mk literal false).mark :: more) = some (⟨literal, false⟩, more) := by
  cases literal with
  | false =>
      show delimiter? ('"' :: more) = some (⟨false, false⟩, more)
      rw [delimiter?.eq_3]
      intro tail hmarks
      exact hmore tail hmarks
  | true =>
      show delimiter? ('\'' :: more) = some (⟨true, false⟩, more)
      rw [delimiter?.eq_4]
      intro tail hmarks
      exact hmore tail hmarks

/-- The delimiter of a long string is found. -/
theorem delimiter?_long (literal : Bool) (more : List Char) :
    delimiter? (List.replicate 3 (Delimiter.mk literal true).mark ++ more) =
      some (⟨literal, true⟩, (newline? more).getD more) := by
  cases literal <;> rfl

/-- **A string is read**, however it is written. -/
theorem takes_string {value : String} (htext : IsString value text) (hrest : EndsString rest) :
    Takes string (text ++ rest) value rest := by
  -- What is behind the delimiter is read to its end.
  have hstep : ∀ {delimiter : Delimiter} {chars text more : List Char},
      IsBody delimiter chars text → delimiter? more = some (delimiter, text ++ rest) →
        Takes string more (String.ofList chars) rest := by
    intro delimiter chars text more hbody hdelimiter
    have hends : delimiter.long = true → ∀ first ∈ rest.head?, first ≠ delimiter.mark := by
      intro _ first hfirst
      rw [Delimiter.mark]
      split
      · exact (hrest first hfirst).2
      · exact (hrest first hfirst).1
    obtain ⟨hshorter, hread⟩ := takes_stringBody hbody hends []
    refine ⟨hshorter.trans (length_delimiter?_lt hdelimiter), ?_⟩
    rw [string]
    split
    · rename_i hfound
      rw [hdelimiter] at hfound
      cases hfound
    · rename_i found left hfound
      obtain ⟨rfl, rfl⟩ := Prod.mk.inj (Option.some.inj (hdelimiter.symm.trans hfound))
      rw [hread]
      rfl
  cases htext with
  | short hbody => exact hstep hbody (delimiter?_short (hbody.ne_marks rfl hrest))
  | @long literal chars line text hbody hline =>
      have hfirst : newline? (line ++ (text ++ rest)) = some (text ++ rest) ∨
          newline? (line ++ (text ++ rest)) = none ∧ line = [] := by
        rcases hline with hline | ⟨rfl, hnone⟩
        · exact .inl (newline?_append hline)
        · obtain ⟨first, more, rfl⟩ := hbody.exists_cons
          obtain ⟨hline, hreturn⟩ := hnone first rfl
          exact .inr ⟨newline?_cons hline hreturn, rfl⟩
      rw [List.append_assoc, List.append_assoc]
      refine hstep hbody ((delimiter?_long literal _).trans ?_)
      rcases hfirst with hfound | ⟨hnone, rfl⟩
      · rw [hfound, Option.getD_some]
      · rw [hnone, Option.getD_none, List.nil_append]

end Toml

end CallForest
