/-! # Labels in DOT text

Inside a quoted DOT string a backslash, a double quote and a newline are written as two characters.
The text is escaped in three passes, one per character; the pass for backslashes comes first, so no
pass touches what an earlier one has written.

* `Label.substitute`: one pass, which replaces a character everywhere.
* `Label.escape`: the three passes.
* `Label.escapeOnce`: the same text by a single pass that looks at each character once.
* `Label.unescape`: reads the two-character forms back, from left to right. -/

namespace CallForest

namespace Label

/-- Replaces a character by a text wherever it occurs. -/
def substitute (character : Char) (replacement : List Char) (text : List Char) : List Char :=
  text.flatMap fun other => if other = character then replacement else [other]

/-- A text as it stands between the quotes of a DOT string, on characters. -/
def escapeChars (text : List Char) : List Char :=
  substitute '\n' ['\\', 'n'] (substitute '"' ['\\', '"'] (substitute '\\' ['\\', '\\'] text))

/-- A text as it stands between the quotes of a DOT string. -/
def escape (text : String) : String := String.ofList (escapeChars text.toList)

/-- The form of one character between the quotes of a DOT string. -/
def escapeChar (character : Char) : List Char :=
  if character = '\\' then ['\\', '\\']
  else if character = '"' then ['\\', '"']
  else if character = '\n' then ['\\', 'n']
  else [character]

/-- Writes every character in its own form, all at once. -/
def escapeOnce (text : List Char) : List Char := text.flatMap escapeChar

/-- Reads the forms of characters back: a backslash takes the next character with it. -/
def unescape : List Char → List Char
  | [] => []
  | '\\' :: 'n' :: rest => '\n' :: unescape rest
  | '\\' :: other :: rest => other :: unescape rest
  | other :: rest => other :: unescape rest

/-- A quoted DOT string. -/
def quote (text : String) : String := "\"" ++ escape text ++ "\""

end Label

end CallForest
