import CallForest.Json.Numeral
import CallForest.Json.Text

/-! # Tokens

The smallest pieces of a JSON document that stand between its values: blanks and the words `true`,
`false` and `null`; and scalars, the values without parts.

* `Json.skipBlank`: what is left behind the blanks.
* `Json.word`: the reader of the rest of a word.
* `Json.scalar?`: the reader of a scalar, where one begins. -/

namespace CallForest

namespace Json

/-- Whether a byte is a blank, a tab, a carriage return or a newline. -/
def isBlank (byte : UInt8) : Bool := byte = 0x20 || byte = 0x0a || byte = 0x09 || byte = 0x0d

/-- What is left behind the blanks. -/
def skipBlank (bytes : Bytes) : Bytes := bytes.dropWhile isBlank

/-- Skipping blanks leaves no more bytes than there were. -/
theorem length_skipBlank_le (bytes : Bytes) : (skipBlank bytes).length ≤ bytes.length :=
  length_dropWhile_le isBlank bytes

/-- Reads given bytes, the rest of a word. -/
def word : Bytes → Bytes → Except Fault Bytes
  | [], bytes => .ok bytes
  | _ :: _, [] => .error (.here .endInValue [])
  | wanted :: more, byte :: rest =>
    if byte = wanted then word more rest else .error (.here .expectedIdent rest)

/-- A word leaves no more bytes than there were. -/
theorem length_word_le {wanted bytes rest : Bytes} (done : word wanted bytes = .ok rest) :
    rest.length ≤ bytes.length := by
  fun_induction word wanted bytes with
  | case1 => simp_all
  | case2 | case4 => simp at done
  | case3 =>
    rename_i ih
    exact Nat.le_succ_of_le (ih done)

/-- Reads the rest of a word that stands for a value. -/
def wordOf {α : Type} (wanted : Bytes) (value : α) (first : UInt8) (behind : Bytes) :
    Except Fault (Step (first :: behind) α) :=
  match done : word wanted behind with
  | .error fault => .error fault
  | .ok rest => .ok ⟨value, rest, Nat.lt_succ_of_le (length_word_le done)⟩

/-- Reads the rest of the word `null`. -/
def null {α : Type} (value : α) (behind : Bytes) : Except Fault (Step (0x6e :: behind) α) :=
  wordOf [0x75, 0x6c, 0x6c] value _ behind

/-- A value without parts. -/
inductive Scalar where
  /-- The word `null`. -/
  | null
  /-- A truth value. -/
  | boolean (value : Bool)
  /-- A number. -/
  | number (value : Number)
  /-- A string. -/
  | string (value : String)
  deriving DecidableEq, Repr

/-- A scalar, as something that was found. -/
def Scalar.found : Scalar → Found
  | .null => .null
  | .boolean value => .boolean value
  | .number value => .number value
  | .string value => .string value

/-- Reads a scalar, if the bytes begin one. -/
def scalar? (bytes : Bytes) : Option (Except Fault (Step bytes Scalar)) :=
  match bytes with
  | [] => none
  | first :: rest =>
    if first = 0x6e then some (wordOf [0x75, 0x6c, 0x6c] .null first rest)
    else if first = 0x74 then some (wordOf [0x72, 0x75, 0x65] (.boolean true) first rest)
    else if first = 0x66 then some (wordOf [0x61, 0x6c, 0x73, 0x65] (.boolean false) first rest)
    else if first = 0x22 then
      some ((text rest).map fun step => (step.map .string).behind)
    else if first = 0x2d || isDigit first then some ((number (first :: rest)).map (·.map .number))
    else none

end Json

end CallForest
