/-! # Blank characters

The property `White_Space` of characters, and text without its blank edges.

* `Blank.ranges`: the table of the property, in closed ranges.
* `Blank.contains`: whether a character is blank.
* `Blank.trim`, `Blank.isBlank`: text without blank edges, and text that is nothing else. -/

namespace CallForest

namespace Blank

/-- The blank characters, in closed ranges of code points. -/
def ranges : List (Nat × Nat) := [
  (0x09, 0x0d), (0x20, 0x20), (0x85, 0x85), (0xa0, 0xa0), (0x1680, 0x1680), (0x2000, 0x200a),
  (0x2028, 0x2029), (0x202f, 0x202f), (0x205f, 0x205f), (0x3000, 0x3000)]

/-- Whether a character is blank. -/
def contains (character : Char) : Bool :=
  ranges.any fun (first, last) => first ≤ character.toNat && character.toNat ≤ last

/-- A text without the blank characters at both ends, on characters. -/
def trimChars (text : List Char) : List Char :=
  ((text.dropWhile contains).reverse.dropWhile contains).reverse

/-- A text without the blank characters at both ends. -/
def trim (text : String) : String := String.ofList (trimChars text.toList)

/-- Whether a text holds nothing but blank characters. -/
def isBlank (text : String) : Bool := text.toList.all contains

end Blank

end CallForest
