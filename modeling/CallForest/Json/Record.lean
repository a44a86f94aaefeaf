import CallForest.Json.Value

/-! # Typed decoding

Decoders of values of a wanted kind. A record is written as an object, whose unknown keys are passed
over, or as the list of its fields in the order of their declaration. Optional fields may be left
out, at the end if the record is a list.

* `Json.scalarOf`, `Json.string`, `Json.boolean`, `Json.double`, `Json.optionalString`,
  `Json.optionalBoolean`: scalars of a kind.
* `Json.sequence`: lists whose elements are of a kind.
* `Json.Field`, `Json.Record`, `Json.Record.decode`: records.
* `Json.decodeDocument`: a whole document. -/

namespace CallForest

namespace Json

variable {α σ : Type}

/-! ## Scalars and lists -/

/-- What is wrong with a list, an object or something else where a scalar was wanted. -/
def notScalar (wanted : String) (bytes : Bytes) : Fault :=
  match bytes with
  | 0x5b :: _ => .shape (.invalidType .sequence wanted) bytes
  | 0x7b :: _ => .shape (.invalidType .map wanted) bytes
  | _ => .ahead .expectedValue bytes

/-- What is wrong with a value where a list or a record was wanted. A scalar is read first, and may
be at fault itself. -/
def notEnclosure (wanted : String) (bytes : Bytes) : Fault :=
  match scalar? bytes with
  | none => notScalar wanted bytes
  | some (.error fault) => fault
  | some (.ok step) => .shape (.invalidType step.value.found wanted) step.rest

/-- Reads a scalar that a selection accepts. -/
def scalarOf (wanted : String) (select : Scalar → Option α) : Decoder α := fun _ bytes =>
  have blank := length_skipBlank_le bytes
  match begins : skipBlank bytes with
  | [] => .error (.here .endInValue [])
  | first :: rest =>
    match scalar? (first :: rest) with
    | none => .error (notScalar wanted (first :: rest))
    | some (.error fault) => .error fault
    | some (.ok step) =>
      match select step.value with
      | some value => .ok ((step.map fun _ => value).inside blank begins)
      | none => .error (.shape (.invalidType step.value.found wanted) step.rest)

/-- The text of a string. -/
def Scalar.string? : Scalar → Option String
  | .string value => some value
  | _ => none

/-- A truth value. -/
def Scalar.boolean? : Scalar → Option Bool
  | .boolean value => some value
  | _ => none

/-- The double nearest to a number. -/
def Scalar.double? : Scalar → Option Binary64
  | .number value => some value.toBinary64
  | _ => none

/-- A selection that also accepts `null`. -/
def Scalar.orNull (select : Scalar → Option α) : Scalar → Option (Option α)
  | .null => some none
  | scalar => (select scalar).map some

/-- Decodes a string. -/
def string : Decoder String := scalarOf "a string" Scalar.string?

/-- Decodes a truth value. -/
def boolean : Decoder Bool := scalarOf "a boolean" Scalar.boolean?

/-- Decodes a number. -/
def double : Decoder Binary64 := scalarOf "f64" Scalar.double?

/-- Decodes a string or `null`. -/
def optionalString : Decoder (Option String) := scalarOf "a string" (Scalar.orNull Scalar.string?)

/-- Decodes a truth value or `null`. -/
def optionalBoolean : Decoder (Option Bool) := scalarOf "a boolean" (Scalar.orNull Scalar.boolean?)

/-- Decodes a list. -/
def sequence (element : Decoder α) : Decoder (List α) := fun budget bytes =>
  have blank := length_skipBlank_le bytes
  match begins : skipBlank bytes with
  | [] => .error (.here .endInValue [])
  | first :: rest =>
    if first = 0x5b then
      match budget with
      | 0 => .error (.ahead .recursionLimit (first :: rest))
      | budget + 1 => (elements (element budget) rest).map (·.beyond blank begins)
    else .error (notEnclosure "a sequence" (first :: rest))

/-! ## Records -/

/-- A **field** of a record that is decoded into a draft of type `σ`. -/
structure Field (σ : Type) where
  /-- The key of the field. -/
  name : String
  /-- Whether a record that is written as a list must reach as far as this field. -/
  required : Bool
  /-- Whether a draft has the field already. -/
  given : σ → Bool
  /-- Decodes the value of the field and enters it into a draft. -/
  decode : Decoder (σ → σ)

/-- A field whose value is entered into a draft by a function. -/
def Field.of (name : String) (required : Bool) (given : σ → Bool) (decode : Decoder α)
    (enter : α → σ → σ) : Field σ :=
  ⟨name, required, given, fun budget bytes => (decode budget bytes).map (·.map enter)⟩

/-- A **record** of type `α`, decoded by way of drafts of type `σ`. -/
structure Record (σ α : Type) where
  /-- The name of the record in messages. -/
  name : String
  /-- The fields, in the order of their declaration. -/
  fields : List (Field σ)
  /-- The draft without any field. -/
  blank : σ
  /-- The record of a draft, or the first field that it lacks. -/
  complete : σ → Except String α

/-- The place of a fault that shows before a member is read: the parser goes on past blanks, and
past the closing brace if it stands there. -/
def besideMember (bytes : Bytes) : Bytes :=
  match skipBlank bytes with
  | 0x7d :: rest => rest
  | rest => rest

namespace Record

/-- Reads the members of a record, behind the opening brace or behind other members. Gives the draft
and the bytes behind the closing brace. -/
def readMembers (record : Record σ α) (budget : Nat) (first : Bool) (draft : σ) (bytes : Bytes) :
    Except Fault (σ × Bytes) :=
  match found : nextMember first bytes with
  | .error fault => .error fault
  | .ok (false, rest) => .ok (draft, rest.tail)
  | .ok (true, rest) =>
    have := length_nextMember_le found
    match key rest with
    | .error fault => .error fault
    | .ok ⟨name, behind, _⟩ =>
      match record.fields.find? (·.name = name) with
      | none =>
        match keyed passValue behind with
        | .error fault => .error fault
        | .ok ⟨_, behind, _⟩ => record.readMembers budget false draft behind
      | some field =>
        if field.given draft then
          .error (.shape (.duplicateField name) (besideMember behind))
        else
          match keyed (field.decode budget) behind with
          | .error fault => .error fault
          | .ok ⟨enter, behind, _⟩ => record.readMembers budget false (enter draft) behind
termination_by bytes.length

/-- The members of a record take at least the closing brace. -/
theorem length_readMembers_lt {record : Record σ α} {budget : Nat} {first : Bool} {draft : σ}
    {bytes : Bytes} {result : σ × Bytes}
    (done : record.readMembers budget first draft bytes = .ok result) :
    result.2.length < bytes.length := by
  fun_induction readMembers record budget first draft bytes with
  | case1 | case3 | case4 | case6 | case7 => simp at done
  | case2 =>
    rename_i found
    have := length_nextMember_le found
    grind
  | case5 | case8 =>
    rename_i ih
    have := ih done
    omega

/-- Reads the end of a record that is written as a list. -/
def readEnd : Reader Unit := fun bytes =>
  have blank := length_skipBlank_le bytes
  match begins : skipBlank bytes with
  | [] => .error (.here .endInList [])
  | byte :: rest =>
    if byte = 0x5d then .ok (.past () blank begins)
    else if byte = 0x2c then
      match skipBlank rest with
      | 0x5d :: more => .error (.ahead .trailingComma (0x5d :: more))
      | more => .error (.ahead .trailingCharacters more)
    else .error (.ahead .trailingCharacters (byte :: rest))

/-- Reads the given fields of a record that is written as a list; `count` fields are behind. Gives
the draft and the bytes in front of the end. -/
def readElements (record : Record σ α) (budget : Nat) (first : Bool) (count : Nat) (draft : σ) :
    List (Field σ) → (bytes : Bytes) →
      Except Fault (σ × { rest : Bytes // rest.length ≤ bytes.length })
  | [], bytes => .ok (draft, ⟨bytes, Nat.le_refl _⟩)
  | field :: fields, bytes =>
    match found : nextElement first bytes with
    | .error fault => .error fault
    | .ok (false, rest) =>
      if field.required then
        .error (.shape (.invalidLength count record.name record.fields.length) rest.tail)
      else record.readElements budget first (count + 1) draft fields bytes
    | .ok (true, rest) =>
      have := length_nextElement_le found
      match field.decode budget rest with
      | .error fault => .error fault
      | .ok ⟨enter, behind, _⟩ =>
        (record.readElements budget false (count + 1) (enter draft) fields behind).map
          fun (draft, left) => (draft, ⟨left.1, by omega⟩)

/-- Decodes a record that is written as a list, behind the opening bracket. -/
def decodeList (record : Record σ α) : Decoder α := fun budget bytes => do
  let (draft, ⟨behind, shorter⟩) ←
    record.readElements budget true 0 record.blank record.fields bytes
  let step ← readEnd behind
  match record.complete draft with
  | .error name => throw (.shape (.missingField name) step.rest)
  | .ok value => return (step.map fun _ => value).after shorter

/-- Decodes a record that is written as an object, behind the opening brace. -/
def decodeObject (record : Record σ α) : Decoder α := fun budget bytes =>
  match done : record.readMembers budget true record.blank bytes with
  | .error fault => .error fault
  | .ok (draft, behind) =>
    match record.complete draft with
    | .error name => .error (.shape (.missingField name) behind)
    | .ok value => .ok ⟨value, behind, length_readMembers_lt done⟩

/-- Decodes a record. -/
def decode (record : Record σ α) : Decoder α := fun budget bytes =>
  have blank := length_skipBlank_le bytes
  match begins : skipBlank bytes with
  | [] => .error (.here .endInValue [])
  | first :: rest =>
    if first = 0x5b || first = 0x7b then
      match budget with
      | 0 => .error (.ahead .recursionLimit (first :: rest))
      | budget + 1 =>
        let decodeRest := if first = 0x5b then record.decodeList else record.decodeObject
        (decodeRest budget rest).map (·.beyond blank begins)
    else .error (notEnclosure ("struct " ++ record.name) (first :: rest))

end Record

/-! ## Documents -/

/-- Decodes a whole document, behind which only blanks may stand. -/
def decodeDocument (decode : Decoder α) (document : Bytes) : Except Fault α := do
  let ⟨value, rest, _⟩ ← decode budget document
  match skipBlank rest with
  | [] => return value
  | more => throw (.ahead .trailingCharacters more)

end Json

end CallForest
