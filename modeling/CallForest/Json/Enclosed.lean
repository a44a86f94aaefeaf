import CallForest.Json.Passing

/-! # Lists and objects

The elements of a list and the members of an object, behind the opening bracket or brace: how the
next one is looked for, and the readers that repeat this up to the end.

* `Json.nextElement`, `Json.nextMember`: is there another element or member, and where does it
  begin?
* `Json.elements`: the reader of the elements of a list.
* `Json.key`, `Json.keyed`: the readers of a key and of the value behind it.
* `Json.members`: the reader of the members of an object; of equal keys the last one counts. -/

namespace CallForest

namespace Json

/-! ## Looking for the next one -/

/-- Whether another element of a list follows, and the bytes from it, or from the closing bracket,
on. -/
def nextElement (first : Bool) (bytes : Bytes) : Except Fault (Bool × Bytes) :=
  match skipBlank bytes with
  | [] => .error (.here .endInList [])
  | byte :: rest =>
    if byte = 0x5d then .ok (false, byte :: rest)
    else if first then .ok (true, byte :: rest)
    else if byte = 0x2c then
      match skipBlank rest with
      | [] => .error (.here .endInValue [])
      | next :: more =>
        if next = 0x5d then .error (.ahead .trailingComma (next :: more))
        else .ok (true, next :: more)
    else .error (.ahead .expectedListCommaOrEnd (byte :: rest))

/-- Whether another member of an object follows, and the bytes from its key, or from the closing
brace, on. -/
def nextMember (first : Bool) (bytes : Bytes) : Except Fault (Bool × Bytes) :=
  match skipBlank bytes with
  | [] => .error (.here .endInObject [])
  | byte :: rest =>
    if byte = 0x7d then .ok (false, byte :: rest)
    else if first then
      if byte = 0x22 then .ok (true, byte :: rest)
      else .error (.ahead .keyMustBeString (byte :: rest))
    else if byte = 0x2c then
      match skipBlank rest with
      | [] => .error (.here .endInValue [])
      | next :: more =>
        if next = 0x22 then .ok (true, next :: more)
        else if next = 0x7d then .error (.ahead .trailingComma (next :: more))
        else .error (.ahead .keyMustBeString (next :: more))
    else .error (.ahead .expectedObjectCommaOrEnd (byte :: rest))

/-- Looking for the next element leaves no more bytes than there were, and always at least one. -/
theorem length_nextElement_le {first more : Bool} {bytes rest : Bytes}
    (found : nextElement first bytes = .ok (more, rest)) :
    0 < rest.length ∧ rest.length ≤ bytes.length := by
  have blank := length_skipBlank_le bytes
  unfold nextElement at found
  split at found
  · simp at found
  · next byte tail _ =>
    have blank' := length_skipBlank_le tail
    grind

/-- Looking for the next member leaves no more bytes than there were, and always at least one. -/
theorem length_nextMember_le {first more : Bool} {bytes rest : Bytes}
    (found : nextMember first bytes = .ok (more, rest)) :
    0 < rest.length ∧ rest.length ≤ bytes.length := by
  have blank := length_skipBlank_le bytes
  unfold nextMember at found
  split at found
  · simp at found
  · next byte tail _ =>
    have blank' := length_skipBlank_le tail
    grind

/-! ## Lists -/

variable {α : Type}

/-- Reads the elements of a list behind those already read, which come last first. Gives the
elements and the bytes behind the closing bracket. -/
def elementsFrom (element : Reader α) (read : List α) (bytes : Bytes) :
    Except Fault (List α × Bytes) :=
  match found : nextElement read.isEmpty bytes with
  | .error fault => .error fault
  | .ok (false, rest) => .ok (read.reverse, rest.tail)
  | .ok (true, rest) =>
    have := length_nextElement_le found
    match element rest with
    | .error fault => .error fault
    | .ok ⟨value, behind, _⟩ => elementsFrom element (value :: read) behind
termination_by bytes.length

/-- A list takes at least its closing bracket. -/
theorem length_elementsFrom_lt {element : Reader α} {read : List α} {bytes : Bytes}
    {result : List α × Bytes} (done : elementsFrom element read bytes = .ok result) :
    result.2.length < bytes.length := by
  fun_induction elementsFrom element read bytes with
  | case1 | case3 => simp at done
  | case2 =>
    rename_i found
    have := length_nextElement_le found
    grind
  | case4 =>
    rename_i ih
    have := ih done
    omega

/-- Reads the elements of a list, behind the opening bracket. -/
def elements (element : Reader α) : Reader (List α) := fun bytes =>
  match done : elementsFrom element [] bytes with
  | .error fault => .error fault
  | .ok (values, rest) => .ok ⟨values, rest, length_elementsFrom_lt done⟩

/-! ## Objects -/

/-- Reads a key, from its quote on. -/
def key : Reader String := fun bytes =>
  match bytes with
  | [] => .error (.here .endInObject [])
  | _ :: rest => (text rest).map (·.behind)

/-- Reads a colon and a value. -/
def keyed (value : Reader α) : Reader α := fun bytes => do
  let colon ← colon bytes
  return colon.next (← value colon.rest)

/-- Reads a key, a colon and a value. -/
def member (value : Reader α) : Reader (String × α) := fun bytes => do
  let name ← key bytes
  let item ← keyed value name.rest
  return (name.next item).map fun item => (name.value, item)

/-- Sets the value of a key: in its place if the key is known, at the end otherwise. -/
def setMember (name : String) (value : α) : List (String × α) → List (String × α)
  | [] => [(name, value)]
  | (other, old) :: members =>
    if other = name then (name, value) :: members else (other, old) :: setMember name value members

/-- Reads the members of an object behind those already read. Gives the members and the bytes behind
the closing brace. -/
def membersFrom (value : Reader α) (first : Bool) (read : List (String × α)) (bytes : Bytes) :
    Except Fault (List (String × α) × Bytes) :=
  match found : nextMember first bytes with
  | .error fault => .error fault
  | .ok (false, rest) => .ok (read, rest.tail)
  | .ok (true, rest) =>
    have := length_nextMember_le found
    match member value rest with
    | .error fault => .error fault
    | .ok ⟨(name, item), behind, _⟩ => membersFrom value false (setMember name item read) behind
termination_by bytes.length

/-- An object takes at least its closing brace. -/
theorem length_membersFrom_lt {value : Reader α} {first : Bool} {read : List (String × α)}
    {bytes : Bytes} {result : List (String × α) × Bytes}
    (done : membersFrom value first read bytes = .ok result) : result.2.length < bytes.length := by
  fun_induction membersFrom value first read bytes with
  | case1 | case3 => simp at done
  | case2 =>
    rename_i found
    have := length_nextMember_le found
    grind
  | case4 =>
    rename_i ih
    have := ih done
    omega

/-- Reads the members of an object, behind the opening brace. -/
def members (value : Reader α) : Reader (List (String × α)) := fun bytes =>
  match done : membersFrom value true [] bytes with
  | .error fault => .error fault
  | .ok (values, rest) => .ok ⟨values, rest, length_membersFrom_lt done⟩

end Json

end CallForest
