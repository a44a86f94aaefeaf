import CallForest.Analysis.Document
import CallForest.Json.Record

/-! # The schema of analysis documents

How an analysis document is written in JSON. Each record is decoded into a draft, whose fields are
entered in any order, and completed at its end. Lists of calls and the verdict of a region may be
left out; any other field must be there.

* `Schema.callee`, `Schema.passingCase`, `Schema.failingCase`, `Schema.region`, `Schema.document`:
  the records.
* `SchemaError`: why a document is refused.
* `Document.parse`: reads a document. -/

namespace CallForest

namespace Schema

open Json

/-- The value of a field that a record must have. -/
def need {α : Type} (name : String) : Option α → Except String α
  | some value => .ok value
  | none => .error name

/-! ## Functions -/

/-- A call, which names the function that is called. -/
def callee : Record (Option String) String where
  name := "CallRef"
  fields := [.of "def_id" true Option.isSome Json.string fun id _ => some id]
  blank := none
  complete := need "def_id"

/-- Decodes a list of calls. -/
def calls : Decoder (List String) := sequence callee.decode

/-- A function that passed, with the functions it calls. -/
structure PassingFunction where
  /-- The function. -/
  id : Option String
  /-- The functions it calls. -/
  calls : Option (List String)

/-- The function of a passing case. -/
def passingFunction : Record PassingFunction (String × List String) where
  name := "FunctionRef"
  fields := [
    .of "def_id" true (·.id.isSome) Json.string fun id draft => { draft with id := some id },
    .of "calls" false (·.calls.isSome) calls fun calls draft => { draft with calls := some calls }]
  blank := ⟨none, none⟩
  complete draft := do return (← need "def_id" draft.id, draft.calls.getD [])

/-- A function that failed, with the functions it calls. -/
structure FailingFunction where
  /-- The function. -/
  id : Option String
  /-- The functions it calls. -/
  calls : Option (List String)
  /-- Whether it has a body. -/
  hasBody : Option Bool

/-- The function of a failing case. A function without a body is written without its calls. -/
def failingFunction : Record FailingFunction (String × List String × Bool) where
  name := "FunctionInfo"
  fields := [
    .of "def_id" true (·.id.isSome) Json.string fun id draft => { draft with id := some id },
    .of "calls" false (·.calls.isSome) calls fun calls draft => { draft with calls := some calls },
    .of "has_body" true (·.hasBody.isSome) boolean fun flag draft =>
      { draft with hasBody := some flag }]
  blank := ⟨none, none, none⟩
  complete draft := do
    let id ← need "def_id" draft.id
    return (id, draft.calls.getD [], ← need "has_body" draft.hasBody)

/-! ## Cases -/

/-- The draft of a passing case. -/
structure PassingDraft where
  /-- The function and its calls. -/
  function : Option (String × List String)
  /-- Whether it passed because it is on the list of allowed functions. -/
  allowlisted : Option Bool
  /-- The locals that influence the region's result. -/
  importantLocals : Option (List Value)

/-- A passing case. -/
def passingCase : Record PassingDraft PassingCase where
  name := "PassingCase"
  fields := [
    .of "function" true (·.function.isSome) passingFunction.decode fun function draft =>
      { draft with function := some function },
    .of "allowlisted" true (·.allowlisted.isSome) boolean fun flag draft =>
      { draft with allowlisted := some flag },
    .of "important_locals" true (·.importantLocals.isSome) (sequence value) fun locals draft =>
      { draft with importantLocals := some locals }]
  blank := ⟨none, none, none⟩
  complete draft := do
    let (id, calls) ← need "function" draft.function
    let allowlisted ← need "allowlisted" draft.allowlisted
    return ⟨id, calls, allowlisted, ← need "important_locals" draft.importantLocals⟩

/-- The draft of a failing case. -/
structure FailingDraft where
  /-- The function, its calls, and whether it has a body. -/
  function : Option (String × List String × Bool)
  /-- Whether it dereferences a raw pointer. -/
  rawPointerDeref : Option Bool
  /-- Whether it transmutes. -/
  hasTransmute : Option Bool

/-- A failing case. -/
def failingCase : Record FailingDraft FailingCase where
  name := "FailingCase"
  fields := [
    .of "function" true (·.function.isSome) failingFunction.decode fun function draft =>
      { draft with function := some function },
    .of "raw_pointer_deref" true (·.rawPointerDeref.isSome) boolean fun flag draft =>
      { draft with rawPointerDeref := some flag },
    .of "has_transmute" true (·.hasTransmute.isSome) boolean fun flag draft =>
      { draft with hasTransmute := some flag }]
  blank := ⟨none, none, none⟩
  complete draft := do
    let (id, calls, hasBody) ← need "function" draft.function
    let rawPointerDeref ← need "raw_pointer_deref" draft.rawPointerDeref
    return ⟨id, calls, hasBody, rawPointerDeref, ← need "has_transmute" draft.hasTransmute⟩

/-! ## Regions and documents -/

/-- The draft of a region. -/
structure RegionDraft where
  /-- The function. -/
  id : Option String
  /-- The verdict, which may be given as `null`. -/
  status : Option (Option Bool)
  /-- The reason, which may be given as `null`. -/
  reason : Option (Option String)
  /-- The annotation, which may be given as `null`. -/
  annotatedPure : Option (Option Bool)
  /-- The functions that passed. -/
  passing : Option (List PassingCase)
  /-- The functions that failed. -/
  failing : Option (List FailingCase)

/-- A region. -/
def region : Record RegionDraft Region where
  name := "RegionResult"
  fields := [
    .of "def_id" true (·.id.isSome) Json.string fun id draft => { draft with id := some id },
    .of "status" false (·.status.isSome) optionalBoolean fun status draft =>
      { draft with status := some status },
    .of "reason" false (·.reason.isSome) optionalString fun reason draft =>
      { draft with reason := some reason },
    .of "annotated_pure" false (·.annotatedPure.isSome) optionalBoolean fun annotation draft =>
      { draft with annotatedPure := some annotation },
    .of "passing" true (·.passing.isSome) (sequence passingCase.decode) fun cases draft =>
      { draft with passing := some cases },
    .of "failing" true (·.failing.isSome) (sequence failingCase.decode) fun cases draft =>
      { draft with failing := some cases }]
  blank := ⟨none, none, none, none, none, none⟩
  complete draft := do
    let id ← need "def_id" draft.id
    let passing ← need "passing" draft.passing
    let failing ← need "failing" draft.failing
    return ⟨id, draft.status.join, draft.reason.join, draft.annotatedPure.join, passing, failing⟩

/-- The draft of a document. -/
structure DocumentDraft where
  /-- The crate. -/
  crateName : Option String
  /-- The time that the analysis took. -/
  elapsed : Option Binary64
  /-- The regions. -/
  regions : Option (List Region)

/-- A document. -/
def document : Record DocumentDraft Document where
  name := "AnalysisDocument"
  fields := [
    .of "crate_name" true (·.crateName.isSome) Json.string fun name draft =>
      { draft with crateName := some name },
    .of "elapsed" true (·.elapsed.isSome) double fun elapsed draft =>
      { draft with elapsed := some elapsed },
    .of "results" true (·.regions.isSome) (sequence region.decode) fun regions draft =>
      { draft with regions := some regions }]
  blank := ⟨none, none, none⟩
  complete draft := do
    let crateName ← need "crate_name" draft.crateName
    let elapsed ← need "elapsed" draft.elapsed
    return ⟨crateName, elapsed, ← need "results" draft.regions⟩

end Schema

/-! ## Reading a document -/

/-- A document departs from the grammar of JSON or from the schema. -/
structure SchemaError where
  /-- What the document is called in messages. -/
  origin : String
  /-- Where the fault is. -/
  place : Place
  /-- The fault. -/
  fault : Json.Fault
  deriving DecidableEq, Repr

/-- What is wrong with the document, without its name. -/
def SchemaError.detail (error : SchemaError) : String := error.fault.messageAt error.place

/-- How a document that is refused is reported. -/
def SchemaError.message (error : SchemaError) : String :=
  "schema error in " ++ error.origin ++ " at line " ++ toString error.place.line ++ ", column " ++
    toString error.place.column ++ ": " ++ error.detail

/-- Reads an **analysis document** from its bytes; `origin` names it in messages. -/
def Document.parse (origin : String) (bytes : Bytes) : Except SchemaError Document :=
  match Json.decodeDocument Schema.document.decode bytes with
  | .ok document => .ok document
  | .error fault => .error ⟨origin, .leaving fault.left bytes, fault⟩

end CallForest
