import CallForest.Config.Setting
import Mathlib.Data.List.Forall2
import Mathlib.Data.Nat.Digits.Defs

/-! # How settings are written

A document of settings has one assignment on a line, in any order, with blank lines and comments
between them. Keys may be bare or in quotes. Strings may be written between marks of two kinds, on
one line or on several, and, between quotation marks, with escapes and joined lines; numbers in four
radixes, with underscores between their digits.

* `Toml.IsBlanks`, `Toml.IsNewline`, `Toml.IsBlankLines`, `Toml.IsComment`: what may stand between
  words.
* `Toml.IsNumber`, `Toml.IsInteger`: digits, and numbers that count something.
* `Toml.IsEscape`, `Toml.IsBody`, `Toml.IsString`: strings, from their characters on.
* `Toml.IsKey`, `Setting.IsValue`: keys, and the values of settings.
* `Setting.IsLine`, `Setting.AreLines`, `Setting.IsDocument`: lines and documents.
* `Setting.AssignsOther`: texts that are no such documents. -/

namespace CallForest

namespace Toml

/-! ### Between words -/

/-- Blanks on one line. -/
def IsBlanks (blanks : List Char) : Prop := ∀ blank ∈ blanks, blank = ' ' ∨ blank = '\t'

/-- A newline. -/
inductive IsNewline : List Char → Prop where
  /-- The newline alone. -/
  | plain : IsNewline ['\n']
  /-- A newline behind a carriage return. -/
  | returned : IsNewline ['\r', '\n']

/-- Blanks and newlines. -/
inductive IsBlankLines : List Char → Prop where
  /-- Nothing is left. -/
  | nil : IsBlankLines []
  /-- A blank. -/
  | blank {first : Char} {rest : List Char} (hfirst : first = ' ' ∨ first = '\t')
      (hrest : IsBlankLines rest) : IsBlankLines (first :: rest)
  /-- A newline. -/
  | newline {line rest : List Char} (hline : IsNewline line) (hrest : IsBlankLines rest) :
      IsBlankLines (line ++ rest)

/-- Characters that do not begin with a blank or a newline. -/
def EndsBlankLines (rest : List Char) : Prop :=
  ∀ first ∈ rest.head?, first ≠ ' ' ∧ first ≠ '\t' ∧ first ≠ '\n' ∧ first ≠ '\r'

/-- A character that may stand for itself in a string or a comment: any but control characters other
than tabs. -/
def IsTextChar (character : Char) : Prop :=
  character = '\t' ∨ (0x20 ≤ character.toNat ∧ character.toNat ≠ 0x7f)

/-- A comment, or none. -/
inductive IsComment : List Char → Prop where
  /-- There is no comment. -/
  | none : IsComment []
  /-- A comment goes on to the end of its line. -/
  | some {text : List Char} (htext : ∀ character ∈ text, IsTextChar character) :
      IsComment ('#' :: text)

/-! ### Digits -/

/-- A **digit** and its value: the decimal digits, and the letters from ten on. -/
def IsHexDigit (value : Nat) (digit : Char) : Prop :=
  (value < 10 ∧ digit.toNat = '0'.toNat + value) ∨
    (10 ≤ value ∧ value < 16 ∧
      (digit.toNat + 10 = 'A'.toNat + value ∨ digit.toNat + 10 = 'a'.toNat + value))

/-- A **number** that digits write in some radix, the one that counts most in front. -/
def IsNumber (radix number : Nat) (digits : List Char) : Prop :=
  ∃ values, List.Forall₂ IsHexDigit values digits ∧ (∀ value ∈ values, value < radix) ∧
    Nat.ofDigits radix values.reverse = number

/-- Digits with underscores between them. -/
inductive IsGrouped : List Char → List Char → Prop where
  /-- The last digit. -/
  | last (digit : Char) : IsGrouped [digit] [digit]
  /-- A digit, with others right behind it. -/
  | next {digits text : List Char} (digit : Char) (hrest : IsGrouped digits text) :
      IsGrouped (digit :: digits) (digit :: text)
  /-- A digit, with others behind an underscore. -/
  | apart {digits text : List Char} (digit : Char) (hrest : IsGrouped digits text) :
      IsGrouped (digit :: digits) (digit :: '_' :: text)

/-- The letters that announce a radix. -/
def radixLetters : List (Char × Nat) := [('x', 16), ('o', 8), ('b', 2)]

/-- A **number that counts something** as it is written: in decimal digits, with a sign or not, or
in the digits of another radix. -/
inductive IsInteger (number : Nat) : List Char → Prop where
  /-- Decimal digits. A zero in front is the only digit, and only zero may be negative. -/
  | decimal {sign digits text : List Char}
      (hsign : sign = [] ∨ sign = ['+'] ∨ sign = ['-'] ∧ number = 0)
      (hdigits : IsNumber 10 number digits) (hzero : digits.head? = some '0' → digits = ['0'])
      (htext : IsGrouped digits text) : IsInteger number (sign ++ text)
  /-- Digits of a radix. -/
  | inRadix {letter : Char} {radix : Nat} {digits text : List Char}
      (hletter : (letter, radix) ∈ radixLetters) (hdigits : IsNumber radix number digits)
      (htext : IsGrouped digits text) : IsInteger number ('0' :: letter :: text)

/-! ### Strings -/

/-- The letters that escape a character, and the characters. -/
def escapeLetters : List (Char × Char) :=
  [('b', '\x08'), ('t', '\t'), ('n', '\n'), ('f', '\x0c'), ('r', '\r'), ('"', '"'), ('\\', '\\')]

/-- What may stand behind a backslash in place of a character: a letter, or its code point in four
or eight hexadecimal digits. -/
inductive IsEscape : Char → List Char → Prop where
  /-- A letter. -/
  | letter {character letter : Char} (hletter : (letter, character) ∈ escapeLetters) :
      IsEscape character [letter]
  /-- A code point of four digits. -/
  | short {character : Char} {digits : List Char} (hlength : digits.length = 4)
      (hdigits : IsNumber 16 character.toNat digits) : IsEscape character ('u' :: digits)
  /-- A code point of eight digits. -/
  | long {character : Char} {digits : List Char} (hlength : digits.length = 8)
      (hdigits : IsNumber 16 character.toNat digits) : IsEscape character ('U' :: digits)

/-- **What stands in a string** behind its opening marks, up to its closing ones, and the characters
that it holds. -/
inductive IsBody (delimiter : Delimiter) : List Char → List Char → Prop where
  /-- The mark that closes a string on one line. -/
  | close (hlong : delimiter.long = false) : IsBody delimiter [] [delimiter.mark]
  /-- The marks that close a long string, with up to two of its own in front of them. -/
  | closeLong {count : Nat} (hlong : delimiter.long = true) (hcount : count ≤ 2) :
      IsBody delimiter (List.replicate count delimiter.mark)
        (List.replicate (count + 3) delimiter.mark)
  /-- A character that stands for itself. -/
  | plain {character : Char} {chars text : List Char} (hchar : IsTextChar character)
      (hmark : character ≠ delimiter.mark) (hslash : character ≠ '\\' ∨ delimiter.literal = true)
      (hrest : IsBody delimiter chars text) :
      IsBody delimiter (character :: chars) (character :: text)
  /-- A character that is escaped. -/
  | escape {character : Char} {escape chars text : List Char} (hliteral : delimiter.literal = false)
      (hescape : IsEscape character escape) (hrest : IsBody delimiter chars text) :
      IsBody delimiter (character :: chars) ('\\' :: (escape ++ text))
  /-- A newline in a long string. -/
  | newline {line chars text : List Char} (hlong : delimiter.long = true) (hline : IsNewline line)
      (hrest : IsBody delimiter chars text) : IsBody delimiter ('\n' :: chars) (line ++ text)
  /-- A line that is joined to the next one that is not blank. -/
  | joined {blanks line lines chars text : List Char} (hlong : delimiter.long = true)
      (hliteral : delimiter.literal = false) (hblanks : IsBlanks blanks) (hline : IsNewline line)
      (hlines : IsBlankLines lines) (htext : EndsBlankLines text)
      (hrest : IsBody delimiter chars text) :
      IsBody delimiter chars ('\\' :: (blanks ++ (line ++ (lines ++ text))))
  /-- One or two marks within a long string. -/
  | marks {count : Nat} {chars text : List Char} (hlong : delimiter.long = true)
      (hcount : count = 1 ∨ count = 2) (htext : text.head? ≠ some delimiter.mark)
      (hrest : IsBody delimiter chars text) :
      IsBody delimiter (List.replicate count delimiter.mark ++ chars)
        (List.replicate count delimiter.mark ++ text)

/-- A **string** as it is written: on one line, or on several, where a newline right behind the
opening marks is passed over. -/
inductive IsString : String → List Char → Prop where
  /-- A string on one line. -/
  | short {literal : Bool} {chars text : List Char} (hbody : IsBody ⟨literal, false⟩ chars text) :
      IsString (String.ofList chars) ((Delimiter.mk literal false).mark :: text)
  /-- A long string. -/
  | long {literal : Bool} {chars line text : List Char} (hbody : IsBody ⟨literal, true⟩ chars text)
      (hline : IsNewline line ∨
        line = [] ∧ ∀ first ∈ text.head?, first ≠ '\n' ∧ first ≠ '\r') :
      IsString (String.ofList chars)
        (List.replicate 3 (Delimiter.mk literal true).mark ++ (line ++ text))

/-! ### Keys -/

/-- A character of a bare key: an ASCII letter or digit, an underscore or a dash. -/
def IsKeyChar (character : Char) : Prop :=
  character.isAlphanum = true ∨ character = '_' ∨ character = '-'

/-- A **key** as it is written: bare, or a string on one line. -/
inductive IsKey : String → List Char → Prop where
  /-- A bare key. -/
  | bare {text : List Char} (hne : text ≠ []) (htext : ∀ character ∈ text, IsKeyChar character) :
      IsKey (String.ofList text) text
  /-- A key in quotes. -/
  | quoted {literal : Bool} {chars text : List Char} (hbody : IsBody ⟨literal, false⟩ chars text) :
      IsKey (String.ofList chars) ((Delimiter.mk literal false).mark :: text)

end Toml

namespace Setting

open Toml

/-! ### Settings -/

/-- The key of a setting. -/
def key : Setting → String
  | .outputDir _ => "output_dir"
  | .format _ => "format"
  | .includePassing _ => "include_passing"
  | .includeFailing _ => "include_failing"
  | .jobs _ => "jobs"
  | .dotProgram _ => "dot_program"

/-- How a truth value is written. -/
def truthText (shown : Bool) : List Char := (if shown then "true" else "false").toList

/-- The **value of a setting** as it is written. A number of regions is below two to the power of
63. -/
inductive IsValue : Setting → List Char → Prop where
  /-- A directory is any string. -/
  | outputDir {path : String} {text : List Char} (htext : IsString path text) :
      IsValue (.outputDir path) text
  /-- A format is given by its name. -/
  | format {format : OutputFormat} {text : List Char} (htext : IsString format.name text) :
      IsValue (.format format) text
  /-- Whether passing cases are shown. -/
  | includePassing (shown : Bool) : IsValue (.includePassing shown) (truthText shown)
  /-- Whether failing cases are shown. -/
  | includeFailing (shown : Bool) : IsValue (.includeFailing shown) (truthText shown)
  /-- A number of regions. -/
  | jobs {count : Nat} {text : List Char} (hcount : count < 2 ^ 63)
      (htext : IsInteger count text) : IsValue (.jobs count) text
  /-- A layout program is any string. -/
  | dotProgram {name : String} {text : List Char} (htext : IsString name text) :
      IsValue (.dotProgram name) text

/-- The part of a line in front of its end. -/
inductive IsLine : Option Setting → List Char → Prop where
  /-- Nothing but blanks. -/
  | blank : IsLine none []
  /-- The assignment of a setting. -/
  | assignment {setting : Setting} {key blanks blanks' value : List Char}
      (hkey : IsKey setting.key key) (hblanks : IsBlanks blanks) (hblanks' : IsBlanks blanks')
      (hvalue : setting.IsValue value) :
      IsLine (some setting) (key ++ (blanks ++ '=' :: (blanks' ++ value)))

/-- The blanks and the comment at the end of a line. -/
def IsLineEnd (text : List Char) : Prop :=
  ∃ blanks comment, IsBlanks blanks ∧ IsComment comment ∧ text = blanks ++ comment

/-- Whole **lines**, each with its newline, and the settings that they make. -/
inductive AreLines : List Setting → List Char → Prop where
  /-- No line is left. -/
  | nil : AreLines [] []
  /-- A line, and those below it. -/
  | next {setting : Option Setting} {settings : List Setting}
      {blanks text ending line rest : List Char} (hblanks : IsBlanks blanks)
      (htext : IsLine setting text) (hending : IsLineEnd ending) (hline : IsNewline line)
      (hrest : AreLines settings rest) :
      AreLines (setting.toList ++ settings) (blanks ++ (text ++ (ending ++ (line ++ rest))))

/-- A **document** of settings: lines, the last of which need not have a newline, with or without a
byte order mark in front of them. -/
inductive IsDocument : List Setting → List Char → Prop where
  /-- The last line has no newline. -/
  | intro {setting : Option Setting} {settings : List Setting}
      {mark lines blanks text ending : List Char} (hmark : mark = [] ∨ mark = ['\ufeff'])
      (hlines : AreLines settings lines) (hblanks : IsBlanks blanks) (htext : IsLine setting text)
      (hending : IsLineEnd ending) :
      IsDocument (settings ++ setting.toList) (mark ++ (lines ++ (blanks ++ (text ++ ending))))

/-- A text that **assigns another key** behind settings, or something below that key. Anything may
stand behind it. -/
inductive AssignsOther (settings : List Setting) : List Char → Prop where
  /-- The key is the first one of its line. -/
  | intro {name : String} {mark lines blanks key blanks' rest : List Char} {next : Char}
      (hmark : mark = [] ∨ mark = ['\ufeff']) (hlines : AreLines settings lines)
      (hblanks : IsBlanks blanks) (hkey : IsKey name key)
      (hname : ∀ setting : Setting, setting.key ≠ name) (hblanks' : IsBlanks blanks')
      (hnext : next = '=' ∨ next = '.') :
      AssignsOther settings (mark ++ (lines ++ (blanks ++ (key ++ (blanks' ++ next :: rest)))))

end Setting

end CallForest
