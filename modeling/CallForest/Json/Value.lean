import CallForest.Json.Enclosed

/-! # Values

JSON values that are kept as they are. Brackets and braces may nest only so deep: every reader of
kept values has a budget of enclosures that it may still open.

* `Json.Value`: values.
* `Json.Decoder`, `Json.budget`: readers with a budget, and the budget of a whole document.
* `Json.value`: the reader of any value. -/

namespace CallForest

namespace Json

/-- A JSON value. -/
inductive Value where
  /-- The word `null`. -/
  | null
  /-- A truth value. -/
  | boolean (value : Bool)
  /-- A number. -/
  | number (value : Number)
  /-- A string. -/
  | string (value : String)
  /-- A list. -/
  | list (elements : List Value)
  /-- An object, with its keys in the order in which they appear first. -/
  | object (members : List (String × Value))
  deriving Repr

/-- A scalar as a value. -/
def Scalar.toValue : Scalar → Value
  | .null => .null
  | .boolean value => .boolean value
  | .number value => .number value
  | .string value => .string value

/-- A reader that may open only so many enclosures, one inside the other. -/
abbrev Decoder (α : Type) := (budget : Nat) → Reader α

/-- How many enclosures of a document may lie inside one another. -/
def budget : Nat := 127

/-- Reads any value. -/
def value : Decoder Value
  | budget, bytes =>
    have blank := length_skipBlank_le bytes
    match begins : skipBlank bytes with
    | [] => .error (.here .endInValue [])
    | first :: rest =>
      if first = 0x5b then
        match budget with
        | 0 => .error (.ahead .recursionLimit (first :: rest))
        | budget + 1 =>
          (elements (value budget) rest).map fun step => (step.map .list).beyond blank begins
      else if first = 0x7b then
        match budget with
        | 0 => .error (.ahead .recursionLimit (first :: rest))
        | budget + 1 =>
          (members (value budget) rest).map fun step => (step.map .object).beyond blank begins
      else
        match scalar? (first :: rest) with
        | none => .error (.ahead .expectedValue (first :: rest))
        | some done => done.map fun step => (step.map Scalar.toValue).inside blank begins

end Json

end CallForest
