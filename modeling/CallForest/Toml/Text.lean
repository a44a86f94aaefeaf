import CallForest.Toml.Line

/-! # Strings of TOML documents

A string stands between quotation marks or apostrophes. Between quotation marks a backslash begins
an escape; between apostrophes every character stands for itself. A long string stands between three
marks, may hold newlines, and may begin and end with up to two marks of its own.

* `Toml.Delimiter`: the four ways to delimit a string.
* `Toml.escape`: the reader of an escape.
* `Toml.stringBody`, `Toml.string`: the readers of the rest of a string and of a string. -/

namespace CallForest

namespace Toml

/-! ## Delimiters -/

/-- How a string is delimited. -/
structure Delimiter where
  /-- Whether the marks are apostrophes, and not quotation marks. -/
  literal : Bool
  /-- Whether there are three marks on either side. -/
  long : Bool
  deriving DecidableEq, Repr

/-- The mark of a delimiter. -/
def Delimiter.mark (delimiter : Delimiter) : Char := if delimiter.literal then '\'' else '"'

/-- Whether a character stands for itself, apart from marks and backslashes. -/
def isStringChar (character : Char) : Bool := isCommentChar character

/-- What is behind the closing marks of a long string, the first of which has been taken, and the
marks in front of them that belong to the string. Of more than five marks the first two belong to
it. -/
def closeLong? (mark : Char) (behind : List Char) : Option (List Char × List Char) :=
  let more := (behind.takeWhile (· = mark)).length
  if more < 2 then none
  else some (List.replicate (min (more - 2) 2) mark, behind.drop (min more 4))

/-- Closing marks leave no more characters than there were. -/
theorem length_closeLong?_le {mark : Char} {behind own rest : List Char}
    (closed : closeLong? mark behind = some (own, rest)) : rest.length ≤ behind.length := by
  simp only [closeLong?] at closed
  split at closed
  · simp at closed
  · simp only [Option.some.injEq, Prod.mk.injEq] at closed
    simp [← closed.2]

/-- Whether marks that do not close a long string may stand in front of what is left. -/
def marksMayStand (literal : Bool) : List Char → Bool
  | [] => false
  | next :: rest => !literal || isStringChar next || (newline? (next :: rest)).isSome

/-! ## Escapes -/

/-- The value of a hexadecimal digit. -/
def hexDigit? (character : Char) : Option Nat :=
  if character.isDigit then some (character.toNat - '0'.toNat)
  else if 'a' ≤ character && character ≤ 'f' then some (character.toNat - 'a'.toNat + 10)
  else if 'A' ≤ character && character ≤ 'F' then some (character.toNat - 'A'.toNat + 10)
  else none

/-- The character of a code point that is not a surrogate. -/
def scalar? (code : Nat) : Option Char :=
  if code.isValidChar then some (Char.ofNat code) else none

/-- The character whose code point has `count` hexadecimal digits, which stand at the head. -/
def codePoint? (count : Nat) (chars : List Char) : Option Char := do
  let digits ← (chars.take count).mapM hexDigit?
  if digits.length = count then scalar? (digits.foldl (fun value digit => value * 16 + digit) 0)
  else none

/-- The character that a short escape stands for. -/
def shortEscape? (character : Char) : Option Char :=
  match character with
  | 'b' => some '\x08'
  | 't' => some '\t'
  | 'n' => some '\n'
  | 'f' => some '\x0c'
  | 'r' => some '\r'
  | '"' => some '"'
  | '\\' => some '\\'
  | _ => none

/-- Reads a code point of `count` digits behind the letter that announces it. -/
def longEscape (count : Nat) (letter : Char) (rest : List Char) :
    Except Fault (Step (letter :: rest) Char) :=
  match codePoint? count rest with
  | some character =>
    .ok ⟨character, rest.drop count, Nat.lt_succ_of_le (List.drop_sublist count rest).length_le⟩
  | none => .error (.here rest)

/-- What is left behind the first byte of a character, which is the character itself if it has more.
-/
def behindByte (letter : Char) (rest : List Char) : List Char :=
  if letter.utf8Size = 1 then rest else letter :: rest

/-- Reads an **escape** behind its backslash. At the end of a document the backslash is refused
itself, elsewhere an unknown escape is refused behind its first byte. -/
def escape : Reader Char
  | [] => .error (.here ['\\'])
  | letter :: rest =>
    match shortEscape? letter with
    | some character => .ok (.one character)
    | none =>
      if letter = 'u' then longEscape 4 letter rest
      else if letter = 'U' then longEscape 8 letter rest
      else .error (.here (behindByte letter rest))

/-! ## Strings -/

/-- What is left behind blanks and newlines. -/
def skipBlankLines : List Char → List Char
  | [] => []
  | first :: rest =>
    if isBlank first then skipBlankLines rest
    else
      match found : newline? (first :: rest) with
      | some behind =>
        have _newline : behind.length < rest.length + 1 := length_newline?_lt found
        skipBlankLines behind
      | none => first :: rest
termination_by chars => chars.length

/-- Skipping blank lines leaves no more characters than there were. -/
theorem length_skipBlankLines_le (chars : List Char) :
    (skipBlankLines chars).length ≤ chars.length := by
  fun_induction skipBlankLines chars with
  | case1 => simp
  | case2 => simp only [List.length_cons]; omega
  | case3 => rename_i found shorter ih; simp only [List.length_cons]; omega
  | case4 => simp

/-- What is left behind the end of a line that is joined to the next one: blanks, a newline, and the
blank lines below it. -/
def joinedLine? (behind : List Char) : Option (List Char) :=
  (newline? (skipBlank behind)).map skipBlankLines

/-- A joined line leaves fewer characters than there were. -/
theorem length_joinedLine?_lt {behind rest : List Char} (found : joinedLine? behind = some rest) :
    rest.length < behind.length := by
  simp only [joinedLine?, Option.map_eq_some_iff] at found
  obtain ⟨below, line, rfl⟩ := found
  have := length_newline?_lt line
  have := length_skipBlank_le behind
  have := length_skipBlankLines_le below
  omega

/-- Reads the rest of a string behind the characters already read, which come last first. -/
def stringBody (delimiter : Delimiter) (read : List Char) : Reader String
  | [] => .error (.here [])
  | first :: rest =>
    if first = delimiter.mark then
      if delimiter.long then
        match closed : closeLong? delimiter.mark rest with
        | some (own, behind) =>
          .ok ⟨String.ofList (own ++ read).reverse, behind,
            Nat.lt_succ_of_le (length_closeLong?_le closed)⟩
        | none =>
          if marksMayStand delimiter.literal (rest.dropWhile (· = delimiter.mark)) then
            (stringBody delimiter (first :: read) rest).map (·.behind)
          else .error (.here (first :: rest))
      else .ok (.one (String.ofList read.reverse))
    else if first = '\\' && !delimiter.literal then
      match joined : (if delimiter.long then joinedLine? rest else none) with
      | some behind =>
        have shorter : behind.length < rest.length := by
          split at joined
          · exact length_joinedLine?_lt joined
          · simp at joined
        (stringBody delimiter read behind).map (·.after (Nat.le_succ_of_le (Nat.le_of_lt shorter)))
      | none =>
        match escape rest with
        | .error fault => .error fault
        | .ok ⟨character, behind, shorter⟩ =>
          (stringBody delimiter (character :: read) behind).map
            (·.after (Nat.le_succ_of_le (Nat.le_of_lt shorter)))
    else if isStringChar first then
      (stringBody delimiter (first :: read) rest).map (·.behind)
    else
      match found : (if delimiter.long then newline? (first :: rest) else none) with
      | some behind =>
        have shorter : behind.length < rest.length + 1 := by
          split at found
          · exact length_newline?_lt found
          · simp at found
        (stringBody delimiter ('\n' :: read) behind).map (·.after (Nat.le_of_lt shorter))
      | none => .error (.here (first :: rest))
termination_by chars => chars.length

/-- The delimiter at the head of some characters, and what is behind it. A newline right behind
three marks does not belong to the string. -/
def delimiter? : List Char → Option (Delimiter × List Char)
  | '"' :: '"' :: '"' :: rest => some (⟨false, true⟩, (newline? rest).getD rest)
  | '\'' :: '\'' :: '\'' :: rest => some (⟨true, true⟩, (newline? rest).getD rest)
  | '"' :: rest => some (⟨false, false⟩, rest)
  | '\'' :: rest => some (⟨true, false⟩, rest)
  | _ => none

/-- A newline that may be missing leaves no more characters than there were. -/
theorem length_newline?_getD_le (chars : List Char) :
    ((newline? chars).getD chars).length ≤ chars.length := by
  cases found : newline? chars with
  | none => simp
  | some rest => simpa using Nat.le_of_lt (length_newline?_lt found)

/-- A delimiter is at least one mark. -/
theorem length_delimiter?_lt {chars rest : List Char} {delimiter : Delimiter}
    (found : delimiter? chars = some (delimiter, rest)) : rest.length < chars.length := by
  unfold delimiter? at found
  split at found
  · rename_i behind
    have := length_newline?_getD_le behind
    simp_all
    omega
  · rename_i behind
    have := length_newline?_getD_le behind
    simp_all
    omega
  · simp_all
  · simp_all
  · simp at found

/-- Reads a **string**. -/
def string : Reader String := fun chars =>
  match found : delimiter? chars with
  | none => .error (.here chars)
  | some (delimiter, behind) =>
    (stringBody delimiter [] behind).map
      (·.after (Nat.le_of_lt (length_delimiter?_lt found)))

end Toml

end CallForest
