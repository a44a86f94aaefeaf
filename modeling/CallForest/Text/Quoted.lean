import CallForest.Text.Glyphless

/-! # Quoted text in messages

A text that a message quotes stands between double quotes. Quotes and backslashes take a backslash,
the common control characters have short forms, and a character without a glyph of its own is spelt
out by its number in lower-case hexadecimal, as in `\u{7f}`.

* `Quoted.spell`: one character of a quoted text.
* `Quoted.quote`: a quoted text. -/

namespace CallForest

namespace Quoted

/-- The digits of a number in lower-case hexadecimal. -/
def hexDigits (number : Nat) : String := String.ofList (Nat.toDigits 16 number)

/-- One character of a quoted text. -/
def spell (character : Char) : String :=
  if character = '\x00' then "\\0"
  else if character = '\t' then "\\t"
  else if character = '\r' then "\\r"
  else if character = '\n' then "\\n"
  else if character = '\\' then "\\\\"
  else if character = '"' then "\\\""
  else if Glyphless.contains character then
    "\\u\x7b" ++ hexDigits character.toNat ++ "\x7d"
  else character.toString

/-- A quoted text. -/
def quote (text : String) : String :=
  "\"" ++ String.join (text.toList.map spell) ++ "\""

end Quoted

end CallForest
