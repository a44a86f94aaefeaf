import CallForest.Proofs.Text.Bytes
import Mathlib.Data.List.Basic

/-! # Reading encoded text

Whatever text is encoded is read back from its bytes, one character after the other.

* `Utf8.encode`: the bytes of a row of characters.
* `Utf8.next_encodeChar`: an encoded character is the piece at the head of the bytes.
* `Utf8.toNat_of_mem_encodeChar`: only characters of one byte are found in encoded text.
* `Utf8.decode_encode`: encoded text is read back.
* `Utf8.ofText_eq_encode`: the bytes of a text. -/

namespace CallForest

namespace Utf8

variable {bits number : Nat} {low high byte : UInt8} {more : Nat} {rest : Bytes}

/-- The bytes of a row of characters. -/
def encode (text : List Char) : Bytes := text.flatMap String.utf8EncodeChar

/-- The bytes of one row of characters stand behind those of another. -/
theorem encode_append (text text' : List Char) :
    encode (text ++ text') = encode text ++ encode text' :=
  List.flatMap_append

/-- The last continuation byte completes a character. -/
theorem extend_last (hlow : low ≤ byte) (hhigh : byte ≤ high) :
    extend bits low high 0 (byte :: rest) =
      (.character (Char.ofNat (bits * 64 + (byte.toNat - 0x80))), rest) := by
  have hinside : ¬(byte < low || high < byte) = true := by
    simp [UInt8.not_lt.2 hlow, UInt8.not_lt.2 hhigh]
  rw [extend, if_neg hinside]

/-- Any other continuation byte adds its bits. -/
theorem extend_more (hlow : low ≤ byte) (hhigh : byte ≤ high) :
    extend bits low high (more + 1) (byte :: rest) =
      extend (bits * 64 + (byte.toNat - 0x80)) 0x80 0xbf more rest := by
  have hinside : ¬(byte < low || high < byte) = true := by
    simp [UInt8.not_lt.2 hlow, UInt8.not_lt.2 hhigh]
  rw [extend, if_neg hinside]

/-- A byte with six bits of a number is a continuation byte, and shows these bits. -/
theorem continuation (number : Nat) :
    0x80 ≤ UInt8.ofNat (number % 64 + 128) ∧ UInt8.ofNat (number % 64 + 128) ≤ 0xbf ∧
      (UInt8.ofNat (number % 64 + 128)).toNat - 0x80 = number % 64 := by
  have hsmall : number % 64 + 128 < 256 := by omega
  have htoNat : (UInt8.ofNat (number % 64 + 128)).toNat = number % 64 + 128 :=
    UInt8.toNat_ofNat_of_lt' hsmall
  simp only [UInt8.le_iff_toNat_le, htoNat]
  refine ⟨?_, ?_, ?_⟩
  · change 128 ≤ _
    omega
  · change _ ≤ 191
    omega
  · omega

/-- A byte below 256, as a number. -/
theorem toNat_ofNat (hsmall : number < 256) : (UInt8.ofNat number).toNat = number :=
  UInt8.toNat_ofNat_of_lt' hsmall

/-- The first byte of two. -/
theorem lead?_two (hleast : 0xc2 ≤ number) (hmost : number < 0xe0) :
    lead? (UInt8.ofNat number) = some ⟨number - 0xc0, 0x80, 0xbf, 0⟩ := by
  have htoNat := toNat_ofNat (show number < 256 by omega)
  have hnot : ¬UInt8.ofNat number < 0xc2 := by
    rw [UInt8.lt_iff_toNat_lt, htoNat]
    exact Nat.not_lt.2 hleast
  have hbelow : UInt8.ofNat number < 0xe0 := by
    rw [UInt8.lt_iff_toNat_lt, htoNat]
    exact hmost
  rw [lead?, if_neg hnot, if_pos hbelow, htoNat]

/-- The first byte of three. -/
theorem lead?_three (hleast : 0xe0 ≤ number) (hmost : number < 0xf0) :
    lead? (UInt8.ofNat number) = some ⟨number - 0xe0, if number = 0xe0 then 0xa0 else 0x80,
      if number = 0xed then 0x9f else 0xbf, 1⟩ := by
  have htoNat := toNat_ofNat (show number < 256 by omega)
  have hnot : ∀ bound : UInt8, bound.toNat ≤ number → ¬UInt8.ofNat number < bound :=
    fun bound hbound => by rwa [UInt8.lt_iff_toNat_lt, htoNat, Nat.not_lt]
  have hbelow : UInt8.ofNat number < 0xf0 := by
    rw [UInt8.lt_iff_toNat_lt, htoNat]
    exact hmost
  have heq : ∀ byte : UInt8, UInt8.ofNat number = byte ↔ number = byte.toNat := fun byte => by
    rw [← UInt8.toNat_inj, htoNat]
  rw [lead?, if_neg (hnot 0xc2 (Nat.le_trans (by decide) hleast)), if_neg (hnot 0xe0 hleast),
    if_pos hbelow, htoNat]
  simp only [heq]
  rfl

/-- The first byte of four. -/
theorem lead?_four (hleast : 0xf0 ≤ number) (hmost : number < 0xf5) :
    lead? (UInt8.ofNat number) = some ⟨number - 0xf0, if number = 0xf0 then 0x90 else 0x80,
      if number = 0xf4 then 0x8f else 0xbf, 2⟩ := by
  have htoNat := toNat_ofNat (show number < 256 by omega)
  have hnot : ∀ bound : UInt8, bound.toNat ≤ number → ¬UInt8.ofNat number < bound :=
    fun bound hbound => by rwa [UInt8.lt_iff_toNat_lt, htoNat, Nat.not_lt]
  have hbelow : UInt8.ofNat number < 0xf5 := by
    rw [UInt8.lt_iff_toNat_lt, htoNat]
    exact hmost
  have heq : ∀ byte : UInt8, UInt8.ofNat number = byte ↔ number = byte.toNat := fun byte => by
    rw [← UInt8.toNat_inj, htoNat]
  rw [lead?, if_neg (hnot 0xc2 (Nat.le_trans (by decide) hleast)),
    if_neg (hnot 0xe0 (Nat.le_trans (by decide) hleast)), if_neg (hnot 0xf0 hleast), if_pos hbelow,
    htoNat]
  simp only [heq]
  rfl

/-- A byte that begins a character of several bytes. -/
theorem next_of_lead {lead : Lead} (hlead : lead? (UInt8.ofNat number) = some lead)
    (hleast : 0x80 ≤ number) (hmost : number < 256) :
    next (UInt8.ofNat number) rest = extend lead.bits lead.low lead.high lead.more rest := by
  have hnot : ¬UInt8.ofNat number < 0x80 := by
    rw [UInt8.lt_iff_toNat_lt, toNat_ofNat hmost]
    exact Nat.not_lt.2 hleast
  rw [next, if_neg hnot, hlead]

/-- A byte with six bits of a number, against a bound. -/
theorem continuation_le (number : Nat) (bound : UInt8) :
    (bound ≤ UInt8.ofNat (number % 64 + 128) ↔ bound.toNat ≤ number % 64 + 128) ∧
      (UInt8.ofNat (number % 64 + 128) ≤ bound ↔ number % 64 + 128 ≤ bound.toNat) := by
  rw [UInt8.le_iff_toNat_le, UInt8.le_iff_toNat_le, toNat_ofNat (by omega)]
  exact ⟨Iff.rfl, Iff.rfl⟩

/-- A character of two bytes. -/
theorem next_two (hleast : 0x80 ≤ number) (hmost : number < 0x800) (rest : Bytes) :
    next (UInt8.ofNat (number / 64 % 32 + 192)) (UInt8.ofNat (number % 64 + 128) :: rest) =
      (.character (Char.ofNat number), rest) := by
  obtain ⟨hlow, hhigh, hbits⟩ := continuation number
  have hnumber : (number / 64 % 32 + 192 - 0xc0) * 64 + number % 64 = number := by omega
  rw [next_of_lead (lead?_two (by omega) (by omega)) (by omega) (by omega), extend_last hlow hhigh,
    hbits, hnumber]

/-- A character of three bytes: the second byte lies higher behind the least first byte, and lower
behind the one that surrogates would have. -/
theorem next_three (hleast : 0x800 ≤ number) (hmost : number < 0x10000)
    (hvalid : number.isValidChar) (rest : Bytes) :
    next (UInt8.ofNat (number / 4096 % 16 + 224))
        (UInt8.ofNat (number / 64 % 64 + 128) :: UInt8.ofNat (number % 64 + 128) :: rest) =
      (.character (Char.ofNat number), rest) := by
  obtain ⟨hlow, hhigh, hbits⟩ := continuation number
  obtain ⟨-, -, hbits'⟩ := continuation (number / 64)
  have hnumber : ((number / 4096 % 16 + 224 - 0xe0) * 64 + number / 64 % 64) * 64 + number % 64 =
      number := by omega
  have hsurrogate : number < 0xd800 ∨ 0xdfff < number := hvalid.imp id And.left
  rw [next_of_lead (lead?_three (by omega) (by omega)) (by omega) (by omega), extend_more,
    extend_last hlow hhigh, hbits, hbits', hnumber]
  · rw [(continuation_le _ _).1]
    dsimp only
    split_ifs <;> simp only [UInt8.reduceToNat] <;> omega
  · rw [(continuation_le _ _).2]
    dsimp only
    split_ifs <;> simp only [UInt8.reduceToNat] <;> omega

/-- A character of four bytes: the second byte lies higher behind the least first byte, and lower
behind the greatest one. -/
theorem next_four (hleast : 0x10000 ≤ number) (hmost : number < 0x110000) (rest : Bytes) :
    next (UInt8.ofNat (number / 262144 % 8 + 240))
        (UInt8.ofNat (number / 4096 % 64 + 128) :: UInt8.ofNat (number / 64 % 64 + 128) ::
          UInt8.ofNat (number % 64 + 128) :: rest) =
      (.character (Char.ofNat number), rest) := by
  obtain ⟨hlow, hhigh, hbits⟩ := continuation number
  obtain ⟨hlow', hhigh', hbits'⟩ := continuation (number / 64)
  obtain ⟨-, -, hbits''⟩ := continuation (number / 4096)
  have hnumber : (((number / 262144 % 8 + 240 - 0xf0) * 64 + number / 4096 % 64) * 64 +
      number / 64 % 64) * 64 + number % 64 = number := by omega
  rw [next_of_lead (lead?_four (by omega) (by omega)) (by omega) (by omega), extend_more,
    extend_more hlow' hhigh', extend_last hlow hhigh, hbits, hbits', hbits'', hnumber]
  · rw [(continuation_le _ _).1]
    dsimp only
    split_ifs <;> simp only [UInt8.reduceToNat] <;> omega
  · rw [(continuation_le _ _).2]
    dsimp only
    split_ifs <;> simp only [UInt8.reduceToNat] <;> omega

/-- **An encoded character** is the piece at the head of the bytes. -/
theorem next_encodeChar (character : Char) (rest : Bytes) :
    ∃ byte behind, String.utf8EncodeChar character ++ rest = byte :: behind ∧
      next byte behind = (.character character, rest) := by
  have hvalid : character.val.toNat.isValidChar := character.valid
  have hback : Char.ofNat character.val.toNat = character := Char.ofNat_toNat character
  have hmost : character.val.toNat < 0x110000 := by
    obtain hsmall | ⟨-, hsmall⟩ := hvalid <;> omega
  rw [String.utf8EncodeChar.eq_1]
  generalize character.val.toNat = number at hback hvalid hmost
  subst hback
  -- The cases are those of the number of bytes.
  split_ifs with hone htwo hthree
  · refine ⟨_, _, rfl, ?_⟩
    have hsmall : UInt8.ofNat number < 0x80 := by
      rw [UInt8.lt_iff_toNat_lt, toNat_ofNat (by omega)]
      exact Nat.lt_succ_of_le hone
    rw [next, if_pos hsmall, toNat_ofNat (by omega)]
    rfl
  · exact ⟨_, _, rfl, next_two (by omega) (by omega) rest⟩
  · exact ⟨_, _, rfl, next_three (by omega) (by omega) hvalid rest⟩
  · exact ⟨_, _, rfl, next_four (by omega) hmost rest⟩

/-- A byte of an encoded character is the character itself, or no character of one byte. -/
theorem toNat_of_mem_encodeChar {character : Char}
    (hbyte : byte ∈ String.utf8EncodeChar character) :
    byte.toNat = character.toNat ∨ 0x80 ≤ byte.toNat := by
  have hleast : ∀ number, 0x80 ≤ number → number < 256 → 0x80 ≤ (UInt8.ofNat number).toNat :=
    fun number hnumber hsmall => by rwa [toNat_ofNat hsmall]
  rw [String.utf8EncodeChar.eq_1] at hbyte
  change byte.toNat = character.val.toNat ∨ _
  generalize character.val.toNat = number at hbyte ⊢
  split_ifs at hbyte with hone htwo hthree <;>
    simp only [List.mem_cons, List.not_mem_nil, or_false] at hbyte
  · rw [hbyte, toNat_ofNat (by omega)]
    exact .inl rfl
  · right
    rcases hbyte with rfl | rfl <;> exact hleast _ (by omega) (by omega)
  · right
    rcases hbyte with rfl | rfl | rfl <;> exact hleast _ (by omega) (by omega)
  · right
    rcases hbyte with rfl | rfl | rfl | rfl <;> exact hleast _ (by omega) (by omega)

/-- Encoded text is read back behind what has been read. -/
theorem decodeOnto_encode (read text : List Char) :
    decodeOnto read (encode text) = .ok (read.reverse ++ text) := by
  induction text generalizing read with
  | nil => rw [encode, List.flatMap_nil, decodeOnto, List.append_nil]
  | cons character text ih =>
      obtain ⟨byte, behind, hbytes, hnext⟩ := next_encodeChar character (encode text)
      rw [encode, List.flatMap_cons, ← encode, hbytes, decodeOnto, hnext]
      simp only
      rw [ih, List.reverse_cons, List.append_assoc, List.singleton_append]

/-- **Encoded text is read back.** -/
theorem decode_encode (text : List Char) : decode (encode text) = .ok (String.ofList text) := by
  rw [decode, decodeOnto_encode]
  rfl

/-- The bytes of a text are those of its characters. -/
theorem ofText_eq_encode (text : String) : Bytes.ofText text = encode text.toList := by
  have hbytes : text.toUTF8 = text.toList.utf8Encode := String.utf8Encode_toList.symm
  rw [Bytes.ofText, Bytes.toList_eq_data, hbytes, List.utf8Encode, List.data_toByteArray]
  rfl

end Utf8

end CallForest
