import CallForest.Toml.Moment
import CallForest.Toml.Numeral
import CallForest.Toml.Table

/-! # Values of TOML documents

Scalars, arrays and tables between braces. The elements of an array may be spread over lines, and a
comma may follow the last one; a table between braces is one line without such a comma. Brackets and
braces may nest only so deep.

* `Toml.scalar`: the reader of a scalar.
* `Toml.elements`, `Toml.braced`: the readers of arrays and tables behind their opening.
* `Toml.value`: the reader of any value. -/

namespace CallForest

namespace Toml

/-! ## Scalars -/

/-- Reads a given word as a value. -/
def word (wanted : List Char) (value : Scalar) : Reader Scalar := fun chars =>
  if found : wanted ≠ [] ∧ wanted <+: chars then
    .ok ⟨value, chars.drop wanted.length, by
      have := List.length_pos_iff.2 found.1
      have := found.2.length_le
      simp
      omega⟩
  else .error (.here chars)

/-- Reads a moment or a number. -/
def momentOrNumber : Reader Scalar := fun chars =>
  match moment? chars with
  | some moment => moment.map (·.map fun _ => .moment)
  | none => number chars

/-- Reads a **scalar**. -/
def scalar : Reader Scalar
  | [] => .error (.here [])
  | first :: rest =>
    if first = '"' || first = '\'' then (string (first :: rest)).map (·.map .string)
    else if first.isDigit || first = '+' || first = '-' then momentOrNumber (first :: rest)
    else if first = 'i' || first = 'n' then number (first :: rest)
    else if first = 't' then word "true".toList (.boolean true) (first :: rest)
    else if first = 'f' then word "false".toList (.boolean false) (first :: rest)
    else .error (.here (first :: rest))

/-! ## Arrays and tables -/

/-- Reads the rest of an array. Lines behind an element that are at fault, or an element whose fault
is not settled, make the element itself stand where the array should end. -/
def elements (element : Reader Node) (chars : List Char) : Except Fault (Step chars (List Node)) :=
  match blank : skipLines chars with
  | .error fault => .error fault
  | .ok [] => .error (.here [])
  | .ok (next :: behind) =>
    have within := length_skipLines_le blank
    if next = ']' then .ok (.past [] within rfl)
    else
      match element (next :: behind) with
      | .error fault => .error (fault.orHere (next :: behind))
      | .ok first =>
        match after : skipLines first.rest with
        | .error _ => .error (.here (next :: behind))
        | .ok [] => .error (.here [])
        | .ok (mark :: more) =>
          have following := length_skipLines_le after
          if mark = ']' then .ok ((first.next (.past [first.value] following rfl)).after within)
          else if mark = ',' then
            have _shorter := first.shorter
            (elements element more).map fun step =>
              (first.next ((step.map (first.value :: ·)).beyond following rfl)).after within
          else .error (.here (mark :: more))
termination_by chars.length
decreasing_by grind

/-- Reads a path, an equals sign and a value. Every fault behind the path is settled. -/
def assignment (value : Reader Node) : Reader (Path × Node) := fun chars => do
  let path ← keyPath chars
  let equals ← mark '=' path.rest
  let node ← (value (skipBlank equals.rest)).mapError Fault.settle
  let node := (node.map fun node => (path.value, node)).after (length_skipBlank_le equals.rest)
  return path.next (equals.next node)

/-- Reads the assignments of a table between braces, and the blanks behind them. A comma that no key
follows is left behind. -/
def assignments (value : Reader Node) (chars : List Char) :
    Except Fault (Step chars (List (Path × Node))) :=
  match assignment value chars with
  | .error fault => .error fault
  | .ok first =>
    match after : skipBlank first.rest with
    | [] => .ok ⟨[first.value], [], Nat.lt_of_le_of_lt (Nat.zero_le _) first.shorter⟩
    | next :: rest =>
      have following : (next :: rest).length ≤ first.rest.length :=
        Nat.le_trans (Nat.le_of_eq (congrArg List.length after.symm))
          (length_skipBlank_le first.rest)
      have shorter := Nat.lt_of_le_of_lt following first.shorter
      if next = ',' then
        match assignments value rest with
        | .ok step => .ok (first.next ((step.map (first.value :: ·)).beyond following rfl))
        | .error fault =>
          if fault.settled then .error fault else .ok ⟨[first.value], next :: rest, shorter⟩
      else .ok ⟨[first.value], next :: rest, shorter⟩
termination_by chars.length
decreasing_by grind

/-- The entries of a table between braces. -/
def Entries.ofAssignments? (assignments : List (Path × Node)) : Option Entries :=
  assignments.foldlM (fun entries (path, node) => enter node path.last path.leading entries) []

/-- Reads the rest of a table between braces. Clashes are found before the closing brace is. -/
def braced (value : Reader Node) : Reader Entries := fun chars =>
  match assignments value (skipBlank chars) with
  | .ok step =>
    match Entries.ofAssignments? step.value with
    | none => .error (.here chars)
    | some entries =>
      (mark '\x7d' step.rest).map fun brace =>
        (step.next (brace.map fun _ => entries)).after (length_skipBlank_le chars)
  | .error fault =>
    if fault.settled then .error fault
    else
      (mark '\x7d' (skipBlank chars)).map fun brace =>
        (brace.map fun _ => []).after (length_skipBlank_le chars)

/-! ## Values -/

/-- How many brackets and braces may be open at a time. -/
def nestingLimit : Nat := 79

/-- Reads a **value**, within which so many brackets and braces may be open at a time. -/
def value : (budget : Nat) → Reader Node
  | _, [] => .error (.here [])
  | budget, first :: rest =>
    let all := first :: rest
    match budget with
    | 0 =>
      if first = '[' || first = '\x7b' then .error (.here all)
      else (scalar all).map fun step => step.map fun value => .scalar value (.between all step.rest)
    | budget + 1 =>
      if first = '[' then
        (elements (value budget) rest).map fun step =>
          (step.map fun nodes => .array nodes (.between all step.rest)).behind
      else if first = '\x7b' then
        (braced (value budget) rest).map fun step =>
          (step.map fun entries => .table .braced entries (some (.between all step.rest))).behind
      else (scalar all).map fun step => step.map fun value => .scalar value (.between all step.rest)

end Toml

end CallForest
