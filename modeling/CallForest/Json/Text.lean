import CallForest.Json.Fault

/-! # Strings

The strings of a JSON document, behind their opening quote. A string that is kept is checked in
full: its escapes are resolved, surrogates must come in pairs, and the result must be well-formed
UTF-8. A string that is passed over is only followed to its end.

* `Json.text`: the reader of a kept string.
* `Json.passText`: the reader of a string that is passed over. -/

namespace CallForest

namespace Json

/-! ## Escapes by number -/

/-- The value of a hexadecimal digit. -/
def hexValue? (byte : UInt8) : Option Nat :=
  if 0x30 ≤ byte && byte ≤ 0x39 then some (byte.toNat - 0x30)
  else if 0x41 ≤ byte && byte ≤ 0x46 then some (byte.toNat - 0x41 + 10)
  else if 0x61 ≤ byte && byte ≤ 0x66 then some (byte.toNat - 0x61 + 10)
  else none

/-- The number that hexadecimal digits write. -/
def hexNumber? (digits : Bytes) : Option Nat :=
  digits.foldlM (fun number digit => (hexValue? digit).map (number * 16 + ·)) 0

/-- Reads four hexadecimal digits. -/
def fourHex : Reader Nat := fun bytes =>
  match bytes with
  | a :: b :: c :: d :: rest =>
    match hexNumber? [a, b, c, d] with
    | some number => .ok ⟨number, rest, by simp only [List.length_cons]; omega⟩
    | none => .error (.here .invalidEscape rest)
  | _ => .error (.here .endInString [])

/-- Whether a number is the first of a pair of surrogates. -/
def isFirstSurrogate (number : Nat) : Bool := 0xd800 ≤ number && number ≤ 0xdbff

/-- Whether a number is the second of a pair of surrogates. -/
def isSecondSurrogate (number : Nat) : Bool := 0xdc00 ≤ number && number ≤ 0xdfff

/-- The bytes of the character of a given number. -/
def characterBytes (number : Nat) : Bytes := String.utf8EncodeChar (Char.ofNat number)

/-- Reads the second escape of a pair of surrogates and gives the character of the pair. -/
def secondSurrogate (first : Nat) : Reader Bytes := fun bytes =>
  match bytes with
  | [] => .error (.here .endInString [])
  | backslash :: behind =>
    if backslash = 0x5c then
      match behind with
      | [] => .error (.here .endInString [])
      | letter :: digits =>
        if letter = 0x75 then do
          let ⟨second, rest, _⟩ ← fourHex digits
          if isSecondSurrogate second then
            return ⟨characterBytes ((first - 0xd800) * 0x400 + (second - 0xdc00) + 0x10000), rest,
              by simp only [List.length_cons]; omega⟩
          else throw (.here .loneSurrogate rest)
        else .error (.here .unexpectedEndOfHexEscape digits)
    else .error (.here .unexpectedEndOfHexEscape behind)

/-- Reads an escape by number behind its letter. -/
def numberEscape : Reader Bytes := fun bytes => do
  let ⟨first, rest, _⟩ ← fourHex bytes
  if isSecondSurrogate first then throw (.here .loneSurrogate rest)
  else if isFirstSurrogate first then
    let step ← secondSurrogate first rest
    return step.after (by omega)
  else return ⟨characterBytes first, rest, by omega⟩

/-! ## Kept strings -/

/-- The byte that a letter behind a backslash stands for. -/
def letterEscape? (letter : UInt8) : Option UInt8 :=
  if letter = 0x22 || letter = 0x5c || letter = 0x2f then some letter
  else if letter = 0x62 then some 0x08
  else if letter = 0x66 then some 0x0c
  else if letter = 0x6e then some 0x0a
  else if letter = 0x72 then some 0x0d
  else if letter = 0x74 then some 0x09
  else none

/-- Reads an escape behind its backslash. -/
def escape : Reader Bytes := fun bytes =>
  match bytes with
  | [] => .error (.here .endInString [])
  | letter :: rest =>
    if letter = 0x75 then (numberEscape rest).map (·.behind)
    else
      match letterEscape? letter with
      | some byte => .ok (.one [byte])
      | none => .error (.here .invalidEscape rest)

/-- Reads up to the closing quote. Gives the bytes of the string behind those already `kept`, which
come last first, and the bytes behind the quote. -/
def content (kept : Bytes) : Bytes → Except Fault (Bytes × Bytes)
  | [] => .error (.here .endInString [])
  | byte :: rest =>
    if byte = 0x22 then .ok (kept.reverse, rest)
    else if byte = 0x5c then
      match escape rest with
      | .error fault => .error fault
      | .ok ⟨bytes, behind, _⟩ => content (bytes.reverse ++ kept) behind
    else if byte < 0x20 then .error (.here .controlCharacter rest)
    else content (byte :: kept) rest
termination_by bytes => bytes.length
decreasing_by all_goals simp only [List.length_cons]; omega

/-- A string takes at least its closing quote. -/
theorem length_content_lt {kept bytes : Bytes} {result : Bytes × Bytes}
    (done : content kept bytes = .ok result) : result.2.length < bytes.length := by
  fun_induction content kept bytes with
  | case1 | case3 | case5 => simp at done
  | case2 => simp only [Except.ok.injEq] at done; simp [← done]
  | case4 | case6 =>
    rename_i ih
    have := ih done
    simp only [List.length_cons]
    omega

/-- Reads a kept string behind its opening quote. Bytes that are no character are placed as many
bytes in front of the end of the string as are left from there on. -/
def text : Reader String := fun bytes =>
  match done : content [] bytes with
  | .error fault => .error fault
  | .ok (kept, rest) =>
    match Utf8.decode kept with
    | .ok value => .ok ⟨value, rest, length_content_lt done⟩
    | .error illFormed => .error ⟨.grammar .invalidCodePoint, rest.length + illFormed.length⟩

/-! ## Strings that are passed over -/

/-- Follows a string to its end and gives the bytes behind the closing quote. -/
def passContent : Bytes → Except Fault Bytes
  | [] => .error (.here .endInString [])
  | byte :: rest =>
    if byte = 0x22 then .ok rest
    else if byte = 0x5c then
      match rest with
      | [] => .error (.here .endInString [])
      | letter :: behind =>
        if letter = 0x75 then
          match fourHex behind with
          | .error fault => .error fault
          | .ok ⟨_, behind, _⟩ => passContent behind
        else if (letterEscape? letter).isSome then passContent behind
        else .error (.here .invalidEscape behind)
    else if byte < 0x20 then .error (.here .controlCharacter (byte :: rest))
    else passContent rest
termination_by bytes => bytes.length
decreasing_by all_goals simp only [List.length_cons]; omega

/-- A string that is passed over takes at least its closing quote. -/
theorem length_passContent_lt {bytes rest : Bytes} (done : passContent bytes = .ok rest) :
    rest.length < bytes.length := by
  fun_induction passContent bytes with
  | case1 | case3 | case4 | case7 | case8 => simp at done
  | case2 => simp_all
  | case5 | case6 | case9 =>
    rename_i ih
    have := ih done
    simp only [List.length_cons]
    omega

/-- Passes over a string behind its opening quote. -/
def passText : Reader Unit := fun bytes =>
  match done : passContent bytes with
  | .error fault => .error fault
  | .ok rest => .ok ⟨(), rest, length_passContent_lt done⟩

end Json

end CallForest
