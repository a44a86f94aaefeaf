import CallForest.Json.Token

/-! # Values that are passed over

A value that nobody asked for is checked against the grammar and otherwise ignored: its numbers may
be out of range, its strings need be no text, and it may nest to any depth, because the open
brackets and braces are kept in a list.

* `Json.Enclosure`: an open bracket or brace.
* `Json.Due`, `Json.pass`: what is due next, and passing over it.
* `Json.passValue`: the reader of a value that is passed over. -/

namespace CallForest

namespace Json

/-- An open bracket or brace. -/
inductive Enclosure where
  /-- An open bracket. -/
  | list
  /-- An open brace. -/
  | object
  deriving DecidableEq, Repr

/-- The byte that closes an enclosure. -/
def Enclosure.close : Enclosure → UInt8
  | .list => 0x5d
  | .object => 0x7d

/-- What is wrong when the document ends inside an enclosure. -/
def Enclosure.unclosed : Enclosure → Reason
  | .list => .endInList
  | .object => .endInObject

/-- What is wrong when a value in an enclosure is followed by neither comma nor end. -/
def Enclosure.unseparated : Enclosure → Reason
  | .list => .expectedListCommaOrEnd
  | .object => .expectedObjectCommaOrEnd

/-- Reads a colon. -/
def colon : Reader Unit := fun bytes =>
  have blank := length_skipBlank_le bytes
  match begins : skipBlank bytes with
  | [] => .error (.here .endInObject [])
  | byte :: rest =>
    if byte = 0x3a then .ok (.past () blank begins)
    else .error (.ahead .expectedColon (byte :: rest))

/-- Passes over a key and the colon behind it. -/
def passKey : Reader Unit := fun bytes =>
  have blank := length_skipBlank_le bytes
  match begins : skipBlank bytes with
  | [] => .error (.here .endInObject [])
  | quote :: rest =>
    if quote = 0x22 then do
      let text ← passText rest
      let colon ← colon text.rest
      return (text.next colon).beyond blank begins
    else .error (.ahead .keyMustBeString (quote :: rest))

/-- Passes over a scalar, if the bytes begin one. -/
def passScalar? (bytes : Bytes) : Option (Except Fault (Step bytes Unit)) :=
  match bytes with
  | [] => none
  | first :: rest =>
    if first = 0x6e then some (wordOf [0x75, 0x6c, 0x6c] () first rest)
    else if first = 0x74 then some (wordOf [0x72, 0x75, 0x65] () first rest)
    else if first = 0x66 then some (wordOf [0x61, 0x6c, 0x73, 0x65] () first rest)
    else if first = 0x22 then some ((passText rest).map (·.behind))
    else if first = 0x2d then
      match done : Numeral.read .invalidNumber rest with
      | .error fault => some (.error fault)
      | .ok (_, behind) =>
        some (.ok ⟨(), behind, Nat.lt_succ_of_lt (Numeral.length_read_lt done)⟩)
    else if isDigit first then
      match done : Numeral.read .invalidNumber (first :: rest) with
      | .error fault => some (.error fault)
      | .ok (_, behind) => some (.ok ⟨(), behind, Numeral.length_read_lt done⟩)
    else none

/-- What is due next when a value is passed over. -/
inductive Due where
  /-- A value. -/
  | value
  /-- The rest of an enclosure that has just been opened. -/
  | opened (enclosure : Enclosure)
  /-- An element or a member. -/
  | item (enclosure : Enclosure)
  /-- What follows a value. -/
  | behind
  deriving DecidableEq, Repr

/-- How many things can be due one after the other before a byte is taken. -/
def Due.rank : Due → Nat
  | .opened _ => 3
  | .item _ => 2
  | .value => 1
  | .behind => 0

/-- Passes over what is due and everything up to the end of the outermost of the enclosures that are
open, given with the innermost first. -/
def pass (due : Due) (enclosures : List Enclosure) (bytes : Bytes) : Except Fault Bytes :=
  have _blank := length_skipBlank_le bytes
  match due with
  | .value =>
    match _ : skipBlank bytes with
    | [] => .error (.here .endInValue [])
    | first :: rest =>
      if first = 0x5b then pass (.opened .list) enclosures rest
      else if first = 0x7b then pass (.opened .object) enclosures rest
      else
        match passScalar? (first :: rest) with
        | none => .error (.ahead .expectedValue (first :: rest))
        | some (.error fault) => .error fault
        | some (.ok ⟨_, behind, _⟩) => pass .behind enclosures behind
  | .opened enclosure =>
    match _ : skipBlank bytes with
    | [] => .error (.here enclosure.unclosed [])
    | first :: rest =>
      if first = enclosure.close then pass .behind enclosures rest
      else pass (.item enclosure) enclosures (first :: rest)
  | .item .list => pass .value (.list :: enclosures) bytes
  | .item .object =>
    match passKey bytes with
    | .error fault => .error fault
    | .ok ⟨_, rest, _⟩ => pass .value (.object :: enclosures) rest
  | .behind =>
    match enclosures with
    | [] => .ok bytes
    | enclosure :: outer =>
      match _ : skipBlank bytes with
      | [] => .error (.here enclosure.unclosed [])
      | first :: rest =>
        if first = 0x2c then pass (.item enclosure) outer rest
        else if first = enclosure.close then pass .behind outer rest
        else .error (.ahead enclosure.unseparated (first :: rest))
termination_by (bytes.length, due.rank)
decreasing_by
  · apply Prod.Lex.left; grind
  · apply Prod.Lex.left; grind
  · apply Prod.Lex.left; grind
  · apply Prod.Lex.left; grind
  · rcases Nat.lt_or_eq_of_le _blank with less | same
    · apply Prod.Lex.left; simp_all
    · rw [show (first :: rest).length = bytes.length by simp_all]
      exact Prod.Lex.right _ (by simp [Due.rank])
  · exact Prod.Lex.right _ (by simp [Due.rank])
  · apply Prod.Lex.left; omega
  · apply Prod.Lex.left; grind
  · apply Prod.Lex.left; grind

/-- Passing over leaves no more bytes than there were, and fewer unless a value is just over. -/
theorem length_pass_le {due : Due} {enclosures : List Enclosure} {bytes rest : Bytes}
    (done : pass due enclosures bytes = .ok rest) :
    rest.length ≤ bytes.length ∧ (due ≠ .behind → rest.length < bytes.length) := by
  fun_induction pass due enclosures bytes with
  | case1 | case4 | case5 | case7 | case11 | case14 | case17 => simp at done
  | case13 => simp_all
  | case2 | case3 | case6 | case8 | case9 | case10 | case12 | case15 | case16 =>
    rename_i ih
    have := ih done
    grind

/-- Passes over a value. -/
def passValue : Reader Unit := fun bytes =>
  match done : pass .value [] bytes with
  | .error fault => .error fault
  | .ok rest => .ok ⟨(), rest, (length_pass_le done).2 (by simp)⟩

end Json

end CallForest
