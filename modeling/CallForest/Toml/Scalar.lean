import CallForest.Decimal.Shortest
import CallForest.Text.Quoted

/-! # Scalars of TOML documents

The values without parts, and how a message names what it found.

* `Toml.Scalar`: the scalars.
* `Toml.Scalar.describe`: the name of a scalar that was found. -/

namespace CallForest

namespace Toml

/-- A value without parts. -/
inductive Scalar where
  /-- A string. -/
  | string (value : String)
  /-- An integer of 64 bits. -/
  | integer (value : Int)
  /-- A double. -/
  | float (value : Binary64)
  /-- A truth value. -/
  | boolean (value : Bool)
  /-- A date, a time of day, or both. No setting is one, so only that it is one is kept. -/
  | moment
  deriving DecidableEq, Repr

/-- How a scalar that was found is named. A moment counts as a map of its parts. -/
def Scalar.describe : Scalar → String
  | .string value => "string " ++ Quoted.quote value
  | .integer value => "integer `" ++ toString value ++ "`"
  | .float value => "floating point `" ++ Shortest.positional.text value ++ "`"
  | .boolean value => "boolean `" ++ (if value then "true" else "false") ++ "`"
  | .moment => "map"

end Toml

end CallForest
