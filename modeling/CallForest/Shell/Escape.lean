import CallForest.Shell.Numeral

/-! # Escapes in printed text

The commands that print text read a backslash and what follows it as one character.

* `Shell.escape`: the character of an escape.
* `Shell.unescape`: a text whose escapes are read. -/

namespace CallForest

namespace Shell

/-- The character that a letter behind a backslash stands for. -/
def letterEscape? : Char → Option Char
  | 'a' => some '\x07'
  | 'b' => some '\x08'
  | 'e' => some '\x1b'
  | 'f' => some '\x0c'
  | 'n' => some '\n'
  | 'r' => some '\r'
  | 't' => some '\t'
  | 'v' => some '\x0b'
  | '\\' => some '\\'
  | _ => none

/-- The character of some octal digits. -/
def octal (digits : Octets) : Char := Char.ofNat (digitsValue 8 digits % 256)

/-- The octal digits at the head of a text, at most three of them. -/
def octalDigits (text : Octets) : Octets := (digitsOf 8 text).1.take 3

/-- The character of an **escape** behind its backslash, and how many characters it takes. A
backslash that begins no escape stands for itself. -/
def escape (text : Octets) : Char × Nat :=
  match text with
  | [] => ('\\', 0)
  | letter :: _ =>
    match letterEscape? letter with
    | some character => (character, 1)
    | none =>
      let digits := octalDigits text
      if digits.isEmpty then ('\\', 0) else (octal digits, digits.length)

/-- A **text whose escapes are read**, up to one that ends the output, and whether there is such a
one. A number may have a zero in front of its digits. -/
def unescape : Nat → Octets → Octets × Bool
  | 0, _ | _, [] => ([], false)
  | fuel + 1, first :: rest =>
    let goOnWith := fun (character : Char) (rest : Octets) =>
      let (more, stopped) := unescape fuel rest
      (character :: more, stopped)
    if first ≠ '\\' then goOnWith first rest
    else
      match rest with
      | 'c' :: _ => ([], true)
      | '0' :: behind =>
        let digits := octalDigits behind
        goOnWith (octal digits) (behind.drop digits.length)
      | rest =>
        let (character, taken) := escape rest
        goOnWith character (rest.drop taken)

/-- A text whose escapes are read, and whether one of them ends the output. -/
def unescaped (text : Octets) : Octets × Bool := unescape (text.length + 1) text

end Shell

end CallForest
