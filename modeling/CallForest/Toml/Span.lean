import CallForest.Step
import CallForest.Text.Utf8

/-! # Spans of TOML documents

A place in a document is kept as the number of characters that are left behind it, so that a reader
needs no counter. A report on a span shows the line on which it begins and underlines it.

* `Toml.Fault`, `Toml.Span`: where the grammar is broken, and where something stands.
* `Toml.Cursor`, `Toml.Cursor.leaving`: a place as a line and a column.
* `Toml.report`: a message on a span. -/

namespace CallForest

namespace Toml

/-- The document breaks the grammar at the next character, or two of its definitions clash. -/
structure Fault where
  /-- How many characters are left behind the place. -/
  left : Nat
  /-- Whether nothing else is tried in place of what was read. -/
  settled : Bool
  deriving DecidableEq, Repr

namespace Fault

/-- A fault in front of the characters that are left. -/
def here (rest : List Char) : Fault := ⟨rest.length, true⟩

/-- A fault in front of the characters that are left, if nothing else can stand in their place. -/
def perhaps (rest : List Char) : Fault := ⟨rest.length, false⟩

/-- A fault that nothing is tried behind any more. -/
def settle (fault : Fault) : Fault := { fault with settled := true }

/-- A fault in front of other characters, unless it is settled. -/
def orHere (fault : Fault) (rest : List Char) : Fault := if fault.settled then fault else here rest

end Fault

/-- Where something stands in a document. -/
structure Span where
  /-- How many characters are left at its first one. -/
  start : Nat
  /-- How many characters are left behind its last one. -/
  stop : Nat
  deriving DecidableEq, Repr

/-- The span from one place to a later one. -/
def Span.between (chars rest : List Char) : Span := ⟨chars.length, rest.length⟩

/-- The next character, or nothing at the end of the document. -/
def Fault.span (fault : Fault) : Span := ⟨fault.left, fault.left - 1⟩

/-- A reader: a step from any characters, or a fault. -/
abbrev Reader (α : Type) := (chars : List Char) → Except Fault (Step chars α)

/-! ## Lines and columns -/

/-- A place, and the line that it is on. -/
structure Cursor where
  /-- The number of newlines in front of the line. -/
  line : Nat
  /-- How far the place lies behind the start of the line. -/
  column : Nat

/-- The number of newlines among some characters. -/
def newlines (chars : List Char) : Nat := chars.count '\n'

/-- The characters behind the last newline. -/
def lastLine (chars : List Char) : List Char :=
  (chars.reverse.takeWhile (· ≠ '\n')).reverse

/-- The place behind some characters and in front of others. It is measured in characters, but in
bytes in front of a character beyond ASCII. The end of a document is one behind its last character,
on the line of that character. -/
def Cursor.between (before : List Char) : List Char → Cursor
  | next :: _ =>
    let line := lastLine before
    ⟨newlines before, if next.toNat < 0x80 then line.length else Utf8.size line⟩
  | [] =>
    let last := before.dropLast
    ⟨newlines last, (lastLine last).length + min 1 before.length⟩

/-- The place that leaves a number of characters of a document behind it. -/
def Cursor.leaving (left : Nat) (document : List Char) : Cursor :=
  let before := document.take (document.length - left)
  .between before (document.drop before.length)

/-- Where a place is, counted from one. -/
def Cursor.headline (cursor : Cursor) : String :=
  "TOML parse error at line " ++ toString (cursor.line + 1) ++ ", column " ++
    toString (cursor.column + 1)

/-! ## Reports -/

/-- A line of a document, by the number of newlines in front of it. -/
def lineAt : Nat → List Char → List Char
  | 0, chars => chars.takeWhile (· ≠ '\n')
  | line + 1, chars => lineAt line ((chars.dropWhile (· ≠ '\n')).drop 1)

/-- A row of one character. -/
def row (count : Nat) (character : Char) : String := String.ofList (List.replicate count character)

/-- The characters of a document that a span covers. -/
def Span.chars (span : Span) (document : List Char) : List Char :=
  (document.drop (document.length - span.start)).take (span.start - span.stop)

/-- The line on which a span begins, with its number in the margin, and the marks below it: one for
each byte of the span that is on the line, but at least one. -/
def excerpt (span : Span) (document : List Char) : String :=
  let cursor := Cursor.leaving span.start document
  let number := toString (cursor.line + 1)
  let margin := row (number.length + 1) ' ' ++ "|"
  let line := lineAt cursor.line document
  let marks := min (Utf8.size (span.chars document)) (Utf8.size line - cursor.column)
  margin ++ "\n" ++ number ++ " | " ++ String.ofList line ++ "\n" ++
    margin ++ row (cursor.column + 1) ' ' ++ row (max 1 marks) '^' ++ "\n"

/-- A **message on a span** of a document. -/
def report (span : Span) (message : String) (document : List Char) : String :=
  (Cursor.leaving span.start document).headline ++ "\n" ++ excerpt span document ++ message ++ "\n"

end Toml

end CallForest
