import CallForest.Text.Octets

/-! # Patterns of shell scripts

A pattern matches a text from one end to the other. A question mark matches any character, a star
any characters, and brackets one of the characters in them; a backslash takes the meaning of what
follows it.

* `Shell.Glyph`: a character of a pattern, which has its meaning only if it is active.
* `Shell.Pattern`, `Shell.Pattern.ofGlyphs`: patterns.
* `Shell.Pattern.accepts`: whether a pattern matches a text.
* `Shell.Pattern.trim`: a text without an end that a pattern matches. -/

namespace CallForest

namespace Shell

/-- A character of a pattern. -/
structure Glyph where
  /-- The character. -/
  octet : Char
  /-- Whether it may have a meaning. -/
  active : Bool
  deriving DecidableEq, Repr

/-- What a place in brackets matches. -/
inductive Listed where
  /-- The characters from one to another. -/
  | range (first last : Char)
  /-- A class of characters. -/
  | named (name : String)
  deriving DecidableEq, Repr

/-- What a place in a pattern matches. -/
inductive Place where
  /-- A character. -/
  | octet (value : Char)
  /-- Any character. -/
  | any
  /-- Any characters. -/
  | many
  /-- A character that is listed, or one that is not if it is `negated`. -/
  | listed (negated : Bool) (items : List Listed)
  deriving DecidableEq, Repr

/-- A **pattern**. -/
abbrev Pattern := List Place

/-- The classes of characters. -/
def classes : List (String × (Char → Bool)) := [
  ("alnum", Char.isAlphanum), ("alpha", Char.isAlpha),
  ("blank", fun c => c = ' ' || c = '\t'), ("cntrl", fun c => c.toNat < 32 || c.toNat = 127),
  ("digit", Char.isDigit), ("graph", fun c => 32 < c.toNat && c.toNat < 127),
  ("lower", Char.isLower), ("print", fun c => 32 ≤ c.toNat && c.toNat < 127),
  ("punct", fun c => 32 < c.toNat && c.toNat < 127 && !c.isAlphanum),
  ("space", fun c => c = ' ' || (9 ≤ c.toNat && c.toNat ≤ 13)), ("upper", Char.isUpper),
  ("xdigit", fun c => c.isDigit || ('a' ≤ c.toLower && c.toLower ≤ 'f'))]

/-- Whether a character is listed. -/
def Listed.holds (character : Char) : Listed → Bool
  | .range first last => first ≤ character && character ≤ last
  | .named name => (classes.lookup name).any (· character)

/-- Whether a place matches a character. -/
def Place.accepts (character : Char) : Place → Bool
  | .octet value => value = character
  | .any | .many => true
  | .listed negated items => items.any (·.holds character) != negated

/-- Whether a place matches a character if small and capital letters count as the same. -/
def Place.acceptsFolded (character : Char) : Place → Bool
  | .listed negated items =>
    items.any (fun item => item.holds character.toLower || item.holds character.toUpper) != negated
  | place => place.accepts character.toLower || place.accepts character.toUpper

namespace Pattern

/-- The texts at the end of a text, the whole one first. -/
def suffixes : Octets → List Octets
  | [] => [[]]
  | first :: rest => (first :: rest) :: suffixes rest

/-- Whether a **pattern matches a text**. -/
def accepts : Pattern → Octets → Bool
  | [], text => text.isEmpty
  | .many :: rest, text => (suffixes text).any (accepts rest)
  | place :: rest, text =>
    match text with
    | [] => false
    | first :: behind => place.accepts first && accepts rest behind

/-- Takes the meaning of a character behind an active backslash. -/
def unescape : List Glyph → List Glyph
  | ⟨'\\', true⟩ :: next :: rest => ⟨next.octet, false⟩ :: unescape rest
  | first :: rest => first :: unescape rest
  | [] => []

/-- The class whose name is between colons at the head of a list of characters, and what is behind
it. -/
def class? (glyphs : List Glyph) : Option (Listed × List Glyph) :=
  match glyphs with
  | ⟨'[', _⟩ :: ⟨':', _⟩ :: rest =>
    let name := rest.takeWhile (·.octet ≠ ':')
    match rest.drop name.length with
    | ⟨':', _⟩ :: ⟨']', _⟩ :: behind =>
      let name := String.ofList (name.map Glyph.octet)
      if (classes.lookup name).isSome then some (.named name, behind) else none
    | _ => none
  | _ => none

/-- The list between brackets, and what is behind it. The first character is listed whatever it is.
-/
def listed? : Nat → Bool → List Glyph → Option (List Listed × List Glyph)
  | 0, _, _ => none
  | fuel + 1, first, glyphs =>
    match class? glyphs with
    | some (item, rest) => (listed? fuel false rest).map fun (items, rest) => (item :: items, rest)
    | none =>
      match glyphs with
      | [] => none
      | ⟨octet, active⟩ :: rest =>
        if octet = ']' && active && !first then some ([], rest)
        else
          match rest with
          | ⟨'-', _⟩ :: last :: behind =>
            if last = ⟨']', true⟩ then
              (listed? fuel false rest).map fun (items, rest) => (.range octet octet :: items, rest)
            else
              (listed? fuel false behind).map fun (items, rest) =>
                (.range octet last.octet :: items, rest)
          | _ =>
            (listed? fuel false rest).map fun (items, rest) => (.range octet octet :: items, rest)

/-- What follows an opening bracket that is closed. -/
def brackets? (glyphs : List Glyph) : Option (Place × List Glyph) :=
  let (negated, inside) :=
    match glyphs with
    | ⟨'!', true⟩ :: rest => (true, rest)
    | rest => (false, rest)
  (listed? (inside.length + 1) true inside).map fun (items, rest) => (.listed negated items, rest)

/-- The pattern of characters, at most `fuel` of them. -/
def ofGlyphsUpTo : Nat → List Glyph → Pattern
  | 0, _ | _, [] => []
  | fuel + 1, ⟨octet, active⟩ :: rest =>
    if !active then .octet octet :: ofGlyphsUpTo fuel rest
    else
      match octet with
      | '?' => .any :: ofGlyphsUpTo fuel rest
      | '*' => .many :: ofGlyphsUpTo fuel rest
      | '[' =>
        match brackets? rest with
        | some (place, rest) => place :: ofGlyphsUpTo fuel rest
        | none => .octet '[' :: ofGlyphsUpTo fuel rest
      | octet => .octet octet :: ofGlyphsUpTo fuel rest

/-- The **pattern of some characters**. -/
def ofGlyphs (glyphs : List Glyph) : Pattern := ofGlyphsUpTo glyphs.length (unescape glyphs)

/-- Whether a pattern matches more than one text. -/
def isOpen (pattern : Pattern) : Bool :=
  pattern.any fun
    | .octet _ => false
    | _ => true

/-- A text up to the character that ends texts. -/
def untilEnd (text : Octets) : Octets := text.takeWhile (· ≠ '\x00')

/-- A **text without an end** that a pattern matches: its front or its back, as little or as much of
it as possible. Of texts in a row, each of which has its end, the pattern sees the first one only;
but as little as possible of the back is looked for from the last one on. -/
def trim (front longest : Bool) (pattern : Pattern) (text : Octets) : Octets :=
  let sizes :=
    if longest && !front then (List.range ((untilEnd text).length + 1)).map (text.length - ·)
    else if longest then (List.range (text.length + 1)).reverse
    else List.range (text.length + 1)
  let found? := sizes.find? fun size =>
    pattern.accepts (untilEnd (if front then text.take size else text.drop (text.length - size)))
  match found? with
  | none => text
  | some size => if front then text.drop size else text.take (text.length - size)

end Pattern

end Shell

end CallForest
