/-! # UTF-8

Bytes as text. A character takes one to four bytes; the first byte gives their number and narrows
the range of the second, every further byte is a continuation byte. Whatever departs from this is
ill-formed, and the longest part that could still have begun a character is one ill-formed piece.

* `Bytes`: sequences of bytes.
* `Utf8.next`: the character, or the ill-formed piece, at the head of a sequence.
* `Utf8.decode`: the text of a well-formed sequence, or where it stops being well-formed.
* `Utf8.decodeLossy`: the text of any sequence, with U+FFFD for every ill-formed piece.
* `Utf8.size`, `Utf8.splitAt?`: texts measured and cut in bytes. -/

namespace CallForest

/-- A sequence of bytes. -/
abbrev Bytes := List UInt8

/-- The bytes of a text. -/
def Bytes.ofText (text : String) : Bytes := text.toUTF8.toList

namespace Utf8

/-- What the first byte of a character of several bytes lays down. -/
structure Lead where
  /-- The bits that the first byte adds to the code point. -/
  bits : Nat
  /-- The least second byte. -/
  low : UInt8
  /-- The greatest second byte. -/
  high : UInt8
  /-- How many bytes follow the second. -/
  more : Nat

/-- Reads a first byte of a character of several bytes. -/
def lead? (byte : UInt8) : Option Lead :=
  if byte < 0xc2 then none
  else if byte < 0xe0 then some ⟨byte.toNat - 0xc0, 0x80, 0xbf, 0⟩
  else if byte < 0xf0 then
    let least := if byte = 0xe0 then 0xa0 else 0x80
    some ⟨byte.toNat - 0xe0, least, if byte = 0xed then 0x9f else 0xbf, 1⟩
  else if byte < 0xf5 then
    let least := if byte = 0xf0 then 0x90 else 0x80
    some ⟨byte.toNat - 0xf0, least, if byte = 0xf4 then 0x8f else 0xbf, 2⟩
  else none

/-- What stands at the head of a sequence of bytes. -/
inductive Piece where
  /-- A character. -/
  | character (value : Char)
  /-- A piece that is not well-formed. -/
  | illFormed
  deriving DecidableEq, Repr

/-- Reads the continuation bytes of a character: `more` of them beyond the next one, which must lie
between `low` and `high`. Gives the piece and the bytes after it. -/
def extend (bits : Nat) (low high : UInt8) (more : Nat) : Bytes → Piece × Bytes
  | [] => (.illFormed, [])
  | byte :: rest =>
    if byte < low || high < byte then (.illFormed, byte :: rest)
    else
      let bits := bits * 64 + (byte.toNat - 0x80)
      match more with
      | 0 => (.character (Char.ofNat bits), rest)
      | more + 1 => extend bits 0x80 0xbf more rest

/-- Reading continuation bytes leaves no more bytes than there were. -/
theorem length_extend_le (bits : Nat) (low high : UInt8) (more : Nat) (bytes : Bytes) :
    (extend bits low high more bytes).2.length ≤ bytes.length := by
  induction bytes generalizing bits low high more with
  | nil => simp [extend]
  | cons byte rest ih =>
    unfold extend
    split
    · simp
    · cases more with
      | zero => simp
      | succ more => exact Nat.le_succ_of_le (ih _ _ _ _)

/-- The piece that begins with a given byte, and the bytes after it. -/
def next (byte : UInt8) (rest : Bytes) : Piece × Bytes :=
  if byte < 0x80 then (.character (Char.ofNat byte.toNat), rest)
  else
    match lead? byte with
    | none => (.illFormed, rest)
    | some lead => extend lead.bits lead.low lead.high lead.more rest

/-- A piece takes at least its first byte. -/
theorem length_next_le (byte : UInt8) (rest : Bytes) :
    (next byte rest).2.length ≤ rest.length := by
  unfold next
  split
  · simp
  · split
    · simp
    · exact length_extend_le _ _ _ _ _

/-- The characters of a well-formed sequence behind those already read, which come last first; or
the bytes from the first ill-formed piece on. -/
def decodeOnto (read : List Char) : Bytes → Except Bytes (List Char)
  | [] => .ok read.reverse
  | byte :: rest =>
    have := length_next_le byte rest
    match (next byte rest).1 with
    | .illFormed => .error (byte :: rest)
    | .character value => decodeOnto (value :: read) (next byte rest).2
termination_by bytes => bytes.length

/-- The text of a well-formed sequence, or the bytes from the first ill-formed piece on. -/
def decode (bytes : Bytes) : Except Bytes String := (decodeOnto [] bytes).map String.ofList

/-- The character that a piece is shown as: itself, or U+FFFD for an ill-formed piece. -/
def Piece.shown : Piece → Char
  | .character value => value
  | .illFormed => Char.ofNat 0xfffd

/-- The characters that a sequence is shown as, behind those already read, which come last first. -/
def decodeLossyOnto (read : List Char) : Bytes → List Char
  | [] => read.reverse
  | byte :: rest =>
    have := length_next_le byte rest
    decodeLossyOnto ((next byte rest).1.shown :: read) (next byte rest).2
termination_by bytes => bytes.length

/-- The text of a sequence, with U+FFFD for every ill-formed piece. -/
def decodeLossy (bytes : Bytes) : String := String.ofList (decodeLossyOnto [] bytes)

/-! ## Measures -/

/-- The number of bytes that a text takes. -/
def size (text : List Char) : Nat :=
  text.foldr (fun character count => character.utf8Size + count) 0

/-- The parts of a text in front of and behind a number of bytes, if no character lies on both
sides. -/
def splitAt? (count : Nat) : List Char → Option (List Char × List Char)
  | [] => if count = 0 then some ([], []) else none
  | first :: rest =>
    if count = 0 then some ([], first :: rest)
    else if count < first.utf8Size then none
    else (splitAt? (count - first.utf8Size) rest).map fun (front, back) => (first :: front, back)

end Utf8

end CallForest
