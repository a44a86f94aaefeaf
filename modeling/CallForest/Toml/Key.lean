import CallForest.Toml.Text

/-! # Keys of TOML documents

A key is bare, made of ASCII letters, digits, underscores and dashes, or it is a string on one line.
A path of keys is written with dots between them, around which blanks may stand.

* `Toml.Key`, `Toml.Path`: a key and where it stands, and a path of keys.
* `Toml.key`, `Toml.keyPath`: the readers of a key and of a path. -/

namespace CallForest

namespace Toml

/-- A key. -/
structure Key where
  /-- The text of the key, without quotes. -/
  text : String
  /-- Where it stands. -/
  span : Span
  deriving DecidableEq, Repr

/-- Whether a character may stand in a bare key. -/
def isBareChar (character : Char) : Bool :=
  character.isAlphanum || character = '_' || character = '-'

/-- Reads the text of a key. -/
def keyText : Reader String
  | [] => .error (.perhaps [])
  | first :: rest =>
    if first = '"' then (stringBody ⟨false, false⟩ [] rest).map (·.behind)
    else if first = '\'' then (stringBody ⟨true, false⟩ [] rest).map (·.behind)
    else if isBareChar first then
      .ok ⟨String.ofList (first :: rest.takeWhile isBareChar), rest.dropWhile isBareChar,
        Nat.lt_succ_of_le (length_dropWhile_le isBareChar rest)⟩
    else .error (.perhaps (first :: rest))

/-- Reads a **key**. -/
def key : Reader Key := fun chars =>
  (keyText chars).map fun step => step.map fun text => ⟨text, .between chars step.rest⟩

/-- A path of keys, which has at least one. -/
structure Path where
  /-- The keys in front of the last one. -/
  leading : List Key
  /-- The last key. -/
  last : Key
  deriving DecidableEq, Repr

/-- The number of keys of a path. -/
def Path.length (path : Path) : Nat := path.leading.length + 1

/-- A path with one more key in front. -/
def Path.below (first : Key) (path : Path) : Path := ⟨first :: path.leading, path.last⟩

/-- Reads the keys of a path, with the blanks around them. A dot that no key follows is left behind.
-/
def keys (chars : List Char) : Except Fault (Step chars Path) :=
  have _before := length_skipBlank_le chars
  match key (skipBlank chars) with
  | .error fault => .error fault
  | .ok ⟨first, behind, shorter⟩ =>
    have _after := length_skipBlank_le behind
    match _ : skipBlank behind with
    | [] => .ok ⟨⟨[], first⟩, [], by simp at shorter ⊢; omega⟩
    | next :: rest =>
      if next = '.' then
        match keys rest with
        | .ok step => .ok ((step.map (Path.below first)).after (by grind))
        | .error fault =>
          if fault.settled then .error fault else .ok ⟨⟨[], first⟩, next :: rest, by grind⟩
      else .ok ⟨⟨[], first⟩, next :: rest, by grind⟩
termination_by chars.length
decreasing_by grind

/-- How many keys a path may have. -/
def pathLimit : Nat := 79

/-- Reads a **path of keys**. -/
def keyPath : Reader Path := fun chars =>
  match keys chars with
  | .error fault => .error fault
  | .ok step => if step.value.length ≤ pathLimit then .ok step else .error (.perhaps chars)

end Toml

end CallForest
