import CallForest.Decimal.Shortest
import CallForest.Step
import CallForest.Text.Quoted
import CallForest.Text.Utf8

/-! # Faults of JSON documents

Why a document is refused, and where. A document either breaks the grammar of JSON, or it is a JSON
document that does not have the shape asked for. The place of a fault is kept as the number of bytes
that are left behind it, so that a reader needs no counter, and is shown as a line and a column.

* `Json.Reason`: breaches of the grammar.
* `Json.Found`, `Json.Mismatch`: what was found, and how it departs from the shape asked for.
* `Json.Fault`, `Json.Fault.messageAt`: a fault and its report.
* `Place`, `Place.behind`: lines and columns. -/

namespace CallForest

/-! ## Places -/

/-- A place in a document of bytes. -/
structure Place where
  /-- The line, counted from one. -/
  line : Nat
  /-- The number of bytes in front of the place in its line. -/
  column : Nat
  deriving DecidableEq, Repr

/-- The place behind one more byte. -/
def Place.next (place : Place) (byte : UInt8) : Place :=
  if byte = 10 then ⟨place.line + 1, 0⟩ else ⟨place.line, place.column + 1⟩

/-- The place behind the bytes read so far. -/
def Place.behind (read : Bytes) : Place := read.foldl Place.next ⟨1, 0⟩

/-- The place in a document that leaves a number of bytes behind it. -/
def Place.leaving (left : Nat) (document : Bytes) : Place :=
  Place.behind (document.take (document.length - left))

namespace Json

/-! ## Breaches of the grammar -/

/-- A breach of the grammar. -/
inductive Reason where
  /-- The document ends where a value or the rest of one is due. -/
  | endInValue
  /-- The document ends inside a list. -/
  | endInList
  /-- The document ends inside an object. -/
  | endInObject
  /-- The document ends inside a string. -/
  | endInString
  /-- No value begins here. -/
  | expectedValue
  /-- A word other than `true`, `false` and `null`. -/
  | expectedIdent
  /-- No colon behind a key. -/
  | expectedColon
  /-- Neither comma nor bracket behind an element of a list. -/
  | expectedListCommaOrEnd
  /-- Neither comma nor brace behind a member of an object. -/
  | expectedObjectCommaOrEnd
  /-- A key that is not a string. -/
  | keyMustBeString
  /-- A comma in front of the closing bracket or brace. -/
  | trailingComma
  /-- Something behind the end of the document or of a list. -/
  | trailingCharacters
  /-- A malformed number. -/
  | invalidNumber
  /-- A number that is too great for a double. -/
  | numberOutOfRange
  /-- An escape that means nothing. -/
  | invalidEscape
  /-- A string that is not well-formed UTF-8. -/
  | invalidCodePoint
  /-- A surrogate that is not the first of a pair. -/
  | loneSurrogate
  /-- A first surrogate without a second escape behind it. -/
  | unexpectedEndOfHexEscape
  /-- A control character inside a string. -/
  | controlCharacter
  /-- Brackets and braces nested too deep. -/
  | recursionLimit
  deriving DecidableEq, Repr

/-- How a breach of the grammar is reported. -/
def Reason.message : Reason → String
  | .endInValue => "EOF while parsing a value"
  | .endInList => "EOF while parsing a list"
  | .endInObject => "EOF while parsing an object"
  | .endInString => "EOF while parsing a string"
  | .expectedValue => "expected value"
  | .expectedIdent => "expected ident"
  | .expectedColon => "expected `:`"
  | .expectedListCommaOrEnd => "expected `,` or `]`"
  | .expectedObjectCommaOrEnd => "expected `,` or `\x7d`"
  | .keyMustBeString => "key must be a string"
  | .trailingComma => "trailing comma"
  | .trailingCharacters => "trailing characters"
  | .invalidNumber => "invalid number"
  | .numberOutOfRange => "number out of range"
  | .invalidEscape => "invalid escape"
  | .invalidCodePoint => "invalid unicode code point"
  | .loneSurrogate => "lone leading surrogate in hex escape"
  | .unexpectedEndOfHexEscape => "unexpected end of hex escape"
  | .controlCharacter => "control character (\\u0000-\\u001F) found while parsing a string"
  | .recursionLimit => "recursion limit exceeded"

/-! ## Departures from the shape -/

/-- A JSON number as it is stored: an integer of at most 64 bits, or a double. -/
inductive Number where
  /-- An integer between the least signed and the greatest unsigned number of 64 bits. -/
  | integer (value : Int)
  /-- A finite double. -/
  | float (value : Binary64)
  deriving DecidableEq, Repr

/-- The double nearest to a number. -/
def Number.toBinary64 : Number → Binary64
  | .integer value => .ofInt value
  | .float value => value

/-- What was found in place of what was wanted. -/
inductive Found where
  /-- The word `null`. -/
  | null
  /-- A truth value. -/
  | boolean (value : Bool)
  /-- A number. -/
  | number (value : Number)
  /-- A string. -/
  | string (value : String)
  /-- A list. -/
  | sequence
  /-- An object. -/
  | map
  deriving DecidableEq, Repr

/-- How a found value is named. -/
def Found.describe : Found → String
  | .null => "null"
  | .boolean value => "boolean `" ++ (if value then "true" else "false") ++ "`"
  | .number (.integer value) => "integer `" ++ toString value ++ "`"
  | .number (.float value) => "floating point `" ++ Shortest.compact.text value ++ "`"
  | .string value => "string " ++ Quoted.quote value
  | .sequence => "sequence"
  | .map => "map"

/-- How a document departs from the shape asked for. -/
inductive Mismatch where
  /-- A record lacks a field. -/
  | missingField (name : String)
  /-- A record has a field twice. -/
  | duplicateField (name : String)
  /-- A value is of the wrong kind. -/
  | invalidType (found : Found) (wanted : String)
  /-- A record written as a list is too short: it has `count` of its `size` fields. -/
  | invalidLength (count : Nat) (record : String) (size : Nat)
  deriving DecidableEq, Repr

/-- How a departure from the shape is reported. -/
def Mismatch.message : Mismatch → String
  | .missingField name => "missing field `" ++ name ++ "`"
  | .duplicateField name => "duplicate field `" ++ name ++ "`"
  | .invalidType found wanted => "invalid type: " ++ found.describe ++ ", expected " ++ wanted
  | .invalidLength count record size =>
    "invalid length " ++ toString count ++ ", expected struct " ++ record ++ " with " ++
      toString size ++ (if size = 1 then " element" else " elements")

/-! ## Faults -/

/-- Why a document is refused. -/
inductive Cause where
  /-- It breaks the grammar. -/
  | grammar (reason : Reason)
  /-- It departs from the shape asked for. -/
  | shape (mismatch : Mismatch)
  deriving DecidableEq, Repr

/-- Why a document is refused, and where: the number of bytes left behind the place. -/
structure Fault where
  /-- Why the document is refused. -/
  cause : Cause
  /-- How many bytes are left behind the place of the fault. -/
  left : Nat
  deriving DecidableEq, Repr

/-- How a cause is reported. -/
def Cause.message : Cause → String
  | .grammar reason => reason.message
  | .shape mismatch => mismatch.message

namespace Fault

/-- A breach of the grammar right in front of the bytes that are left. -/
def here (reason : Reason) (rest : Bytes) : Fault := ⟨.grammar reason, rest.length⟩

/-- A breach of the grammar by the next byte, whose place is behind it; at the end of the document
it is the end. -/
def ahead (reason : Reason) (rest : Bytes) : Fault := ⟨.grammar reason, rest.length - 1⟩

/-- A departure from the shape, right in front of the bytes that are left. -/
def shape (mismatch : Mismatch) (rest : Bytes) : Fault := ⟨.shape mismatch, rest.length⟩

/-- How a fault at a place is reported. -/
def messageAt (fault : Fault) (place : Place) : String :=
  fault.cause.message ++ " at line " ++ toString place.line ++ " column " ++ toString place.column

end Fault

/-- A reader: a step from any bytes, or a fault. -/
abbrev Reader (α : Type) := (bytes : Bytes) → Except Fault (Step bytes α)

end Json

end CallForest
