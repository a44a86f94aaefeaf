import CallForest.Text.Utf8

/-! # Octets

Text that is handled byte by byte, with each byte held as the character of its number. Such text
need not be UTF-8, and is still a list of characters.

* `Octets`: the texts.
* `Octets.ofBytes`, `Octets.toBytes`: between octets and bytes.
* `Octets.ofText`, `Octets.toText`: between octets and texts in UTF-8. -/

namespace CallForest

/-- Text of which each character stands for a byte. -/
abbrev Octets := List Char

namespace Octets

/-- The octets of some bytes. -/
def ofBytes (bytes : Bytes) : Octets := bytes.map fun byte => Char.ofNat byte.toNat

/-- The bytes of some octets. -/
def toBytes (octets : Octets) : Bytes := octets.map fun octet => UInt8.ofNat octet.toNat

/-- The octets of a text in UTF-8. -/
def ofText (text : String) : Octets := ofBytes (Bytes.ofText text)

/-- The text of some octets in UTF-8. What is ill-formed is replaced. -/
def toText (octets : Octets) : String := Utf8.decodeLossy (toBytes octets)

/-- The digits of a number. -/
def ofNat (number : Nat) : Octets := Nat.toDigits 10 number

/-- The digits of an integer, behind its sign if it is negative. -/
def ofInt : Int → Octets
  | .ofNat number => ofNat number
  | .negSucc number => '-' :: ofNat (number + 1)

end Octets

end CallForest
