import CallForest.Proofs.Json.Alike
import CallForest.Analysis.Schema

/-! # What analysis documents say

The analysis document of a JSON value, by looking up the keys of its objects; and the proof that
the records of the schema are read by these views.

* `Schema.documentOf`: the document of a value.
* `Schema.documentShape`: where records are wanted.
* `Document.Same`, `Schema.respects_documentOf`: documents that are the same but for the order of
  keys in what is kept, and that documents look no further than their shape.
* `Schema.reads_document`: documents are read. -/

namespace CallForest

open Json

namespace Schema

/-! ### The document of a value -/

/-- The function that a call names. -/
def calleeOf (tree : Tree) : Option String := tree.required "def_id" Tree.string?

/-- The calls of a function, of which there are none if they are left out. -/
def callsOf (tree : Tree) : Option (List String) :=
  tree.defaulted "calls" (Tree.listOf calleeOf) []

/-- The function of a passing case, with its calls. -/
def passingFunctionOf (tree : Tree) : Option (String × List String) := do
  let id ← tree.required "def_id" Tree.string?
  let calls ← callsOf tree
  return (id, calls)

/-- The function of a failing case, with its calls and whether it has a body. -/
def failingFunctionOf (tree : Tree) : Option (String × List String × Bool) := do
  let id ← tree.required "def_id" Tree.string?
  let calls ← callsOf tree
  let hasBody ← tree.required "has_body" Tree.boolean?
  return (id, calls, hasBody)

/-- A passing case. Its important locals are kept, whatever they are. -/
def passingCaseOf (tree : Tree) : Option PassingCase := do
  let (id, calls) ← tree.required "function" passingFunctionOf
  let allowlisted ← tree.required "allowlisted" Tree.boolean?
  let importantLocals ← tree.required "important_locals" (Tree.listOf (some ·.toValue))
  return ⟨id, calls, allowlisted, importantLocals⟩

/-- A failing case. -/
def failingCaseOf (tree : Tree) : Option FailingCase := do
  let (id, calls, hasBody) ← tree.required "function" failingFunctionOf
  let rawPointerDeref ← tree.required "raw_pointer_deref" Tree.boolean?
  let hasTransmute ← tree.required "has_transmute" Tree.boolean?
  return ⟨id, calls, hasBody, rawPointerDeref, hasTransmute⟩

/-- A region. -/
def regionOf (tree : Tree) : Option Region := do
  let id ← tree.required "def_id" Tree.string?
  let status ← tree.nullable "status" Tree.boolean?
  let reason ← tree.nullable "reason" Tree.string?
  let annotatedPure ← tree.nullable "annotated_pure" Tree.boolean?
  let passing ← tree.required "passing" (Tree.listOf passingCaseOf)
  let failing ← tree.required "failing" (Tree.listOf failingCaseOf)
  return ⟨id, status, reason, annotatedPure, passing, failing⟩

/-- The **document of a value**, if the value has the shape of one. -/
def documentOf (tree : Tree) : Option Document := do
  let crateName ← tree.required "crate_name" Tree.string?
  let elapsed ← tree.required "elapsed" Tree.double?
  let regions ← tree.required "results" (Tree.listOf regionOf)
  return ⟨crateName, elapsed, regions⟩

/-- **Regions keep their order and their number.** -/
theorem exists_regions_of_documentOf {tree : Tree} {document : Document}
    (hdocument : documentOf tree = some document) :
    ∃ regions, tree.field? "results" = some (.list regions) ∧
      List.Forall₂ (fun region answer => regionOf region = some answer)
        regions document.regions := by
  simp only [documentOf, Option.bind_eq_bind, Option.bind_eq_some_iff, Option.pure_def,
    Option.some.injEq] at hdocument
  obtain ⟨crateName, -, elapsed, -, answers, hanswers, rfl⟩ := hdocument
  obtain ⟨value, hvalue, hlist⟩ := Option.bind_eq_some_iff.1 hanswers
  obtain ⟨regions, rfl, hregions⟩ := Tree.listOf_eq_some_iff.1 hlist
  exact ⟨regions, hvalue, hregions⟩

/-! ### Shapes -/

/-- The shape of a call. -/
def calleeShape : Shape := .record [("def_id", .any)]

/-- The shape of the function of a passing case. -/
def passingFunctionShape : Shape := .record [("def_id", .any), ("calls", .list calleeShape)]

/-- The shape of the function of a failing case. -/
def failingFunctionShape : Shape :=
  .record [("def_id", .any), ("calls", .list calleeShape), ("has_body", .any)]

/-- The shape of a passing case. -/
def passingCaseShape : Shape :=
  .record [("function", passingFunctionShape), ("allowlisted", .any),
    ("important_locals", .list .any)]

/-- The shape of a failing case. -/
def failingCaseShape : Shape :=
  .record [("function", failingFunctionShape), ("raw_pointer_deref", .any), ("has_transmute", .any)]

/-- The shape of a region. -/
def regionShape : Shape :=
  .record [("def_id", .any), ("status", .any), ("reason", .any), ("annotated_pure", .any),
    ("passing", .list passingCaseShape), ("failing", .list failingCaseShape)]

/-- The **shape of a document**. -/
def documentShape : Shape :=
  .record [("crate_name", .any), ("elapsed", .any), ("results", .list regionShape)]

end Schema

/-! ### Where nobody looks -/

/-- Passing cases that are the **same but for the order of keys** in their important locals. -/
structure PassingCase.Same (left right : PassingCase) : Prop where
  /-- The important locals are the same, one by one. -/
  importantLocals : List.Forall₂ Value.Same left.importantLocals right.importantLocals
  /-- Everything else is equal. -/
  others : { left with importantLocals := right.importantLocals } = right

/-- Regions that are the same but for the order of keys in important locals. -/
structure Region.Same (left right : Region) : Prop where
  /-- The passing cases are the same, one by one. -/
  passing : List.Forall₂ PassingCase.Same left.passing right.passing
  /-- Everything else is equal. -/
  others : { left with passing := right.passing } = right

/-- Documents that are the **same but for the order of keys** in important locals. -/
structure Document.Same (left right : Document) : Prop where
  /-- The regions are the same, one by one. -/
  regions : List.Forall₂ Region.Same left.regions right.regions
  /-- Everything else is equal. -/
  others : { left with regions := right.regions } = right

namespace Schema

/-- Strings look no further than the tree. -/
theorem respects_string : Respects Eq Tree.string? .any :=
  respects_scalar (fun _ => rfl) fun _ => rfl

/-- Truth values look no further than the tree. -/
theorem respects_boolean : Respects Eq Tree.boolean? .any :=
  respects_scalar (fun _ => rfl) fun _ => rfl

/-- Numbers look no further than the tree. -/
theorem respects_double : Respects Eq Tree.double? .any :=
  respects_scalar (fun _ => rfl) fun _ => rfl

/-- Calls look no further than their shape. -/
theorem respects_calleeOf : Respects Eq calleeOf calleeShape := fun _ _ halike =>
  respects_string.required "def_id" halike (by simp)

/-- The function of a passing case looks no further than its shape. -/
theorem respects_passingFunctionOf : Respects Eq passingFunctionOf passingFunctionShape := by
  intro left right halike
  refine rel_bind (respects_string.required "def_id" halike (by simp)) ?_
  rintro id _ rfl
  refine rel_bind (respects_calleeOf.listOf_eq.defaulted "calls" rfl halike (by simp)) ?_
  rintro calls _ rfl
  exact .some rfl

/-- The function of a failing case looks no further than its shape. -/
theorem respects_failingFunctionOf : Respects Eq failingFunctionOf failingFunctionShape := by
  intro left right halike
  refine rel_bind (respects_string.required "def_id" halike (by simp)) ?_
  rintro id _ rfl
  refine rel_bind (respects_calleeOf.listOf_eq.defaulted "calls" rfl halike (by simp)) ?_
  rintro calls _ rfl
  refine rel_bind (respects_boolean.required "has_body" halike (by simp)) ?_
  rintro hasBody _ rfl
  exact .some rfl

/-- A passing case looks no further than its shape. -/
theorem respects_passingCaseOf : Respects PassingCase.Same passingCaseOf passingCaseShape := by
  intro left right halike
  refine rel_bind (respects_passingFunctionOf.required "function" halike (by simp)) ?_
  rintro function _ rfl
  refine rel_bind (respects_boolean.required "allowlisted" halike (by simp)) ?_
  rintro allowlisted _ rfl
  refine rel_bind (respects_toValue.listOf.required "important_locals" halike (by simp)) ?_
  intro locals locals' hlocals
  exact .some ⟨hlocals, rfl⟩

/-- A failing case looks no further than its shape. -/
theorem respects_failingCaseOf : Respects Eq failingCaseOf failingCaseShape := by
  intro left right halike
  refine rel_bind (respects_failingFunctionOf.required "function" halike (by simp)) ?_
  rintro function _ rfl
  refine rel_bind (respects_boolean.required "raw_pointer_deref" halike (by simp)) ?_
  rintro rawPointerDeref _ rfl
  refine rel_bind (respects_boolean.required "has_transmute" halike (by simp)) ?_
  rintro hasTransmute _ rfl
  exact .some rfl

/-- A region looks no further than its shape. -/
theorem respects_regionOf : Respects Region.Same regionOf regionShape := by
  have hboolean : Respects Eq (Tree.orNull Tree.boolean?) .any :=
    respects_scalar (fun _ => rfl) fun _ => rfl
  have hstring : Respects Eq (Tree.orNull Tree.string?) .any :=
    respects_scalar (fun _ => rfl) fun _ => rfl
  intro left right halike
  refine rel_bind (respects_string.required "def_id" halike (by simp)) ?_
  rintro id _ rfl
  refine rel_bind (hboolean.nullable "status" halike (by simp)) ?_
  rintro status _ rfl
  refine rel_bind (hstring.nullable "reason" halike (by simp)) ?_
  rintro reason _ rfl
  refine rel_bind (hboolean.nullable "annotated_pure" halike (by simp)) ?_
  rintro annotatedPure _ rfl
  refine rel_bind (respects_passingCaseOf.listOf.required "passing" halike (by simp)) ?_
  intro passing passing' hpassing
  refine rel_bind (respects_failingCaseOf.listOf_eq.required "failing" halike (by simp)) ?_
  rintro failing _ rfl
  exact .some ⟨hpassing, rfl⟩

/-- A **document looks no further** than its shape. -/
theorem respects_documentOf : Respects Document.Same documentOf documentShape := by
  intro left right halike
  refine rel_bind (respects_string.required "crate_name" halike (by simp)) ?_
  rintro crateName _ rfl
  refine rel_bind (respects_double.required "elapsed" halike (by simp)) ?_
  rintro elapsed _ rfl
  refine rel_bind (respects_regionOf.listOf.required "results" halike (by simp)) ?_
  intro regions regions' hregions
  exact .some ⟨hregions, rfl⟩

/-! ### Records are read -/

variable {α β : Type}

/-- What is done with a value that is needed is done if it is there. -/
@[simp] theorem toOption_need_bind (name : String) (value : Option α)
    (next : α → Except String β) :
    (need name value >>= next).toOption = value.bind fun value => (next value).toOption := by
  cases value <;> rfl

/-- A value that is needed comes out if it is there. -/
@[simp] theorem toOption_need_map (name : String) (value : Option α) (next : α → β) :
    (next <$> need name value).toOption = value.bind fun value => some (next value) := by
  cases value <;> rfl

/-- A value that is needed is there or not. -/
@[simp] theorem toOption_need (name : String) (value : Option α) :
    (need name value).toOption = value := by
  cases value <;> rfl

/-- The fields of a call. -/
def calleeViews : List (FieldView (Option String)) :=
  [⟨"def_id", true, id, fun id _ => some id, Json.string, Tree.string?, .any, reads_string⟩]

/-- They are those of the record. -/
theorem hasViews_callee : callee.HasViews calleeViews where
  fields_eq := rfl
  independent := List.pairwise_singleton _ _
  get_enter := by simp [calleeViews]
  get_blank := by simp [calleeViews, callee]

/-- **Calls are read.** -/
theorem reads_callee : Reads callee.decode calleeOf calleeShape := by
  refine hasViews_callee.reads_decode rfl ?_ ?_
  · intro tree field hfield hnone
    obtain rfl := List.mem_singleton.1 hfield
    rw [calleeOf, Tree.required_eq, hnone]
    rfl
  · intro tree draft hsome
    have hid := List.forall_mem_singleton.1 hsome
    rw [calleeOf, Tree.required_eq, hid]
    simp [callee]

/-- The fields of the function of a passing case. -/
def passingFunctionViews : List (FieldView PassingFunction) :=
  [⟨"def_id", true, (·.id), fun id draft => { draft with id := some id }, Json.string,
      Tree.string?, .any, reads_string⟩,
    ⟨"calls", false, (·.calls), fun calls draft => { draft with calls := some calls }, calls,
      Tree.listOf calleeOf, .list calleeShape, reads_sequence reads_callee⟩]

/-- They are those of the record. -/
theorem hasViews_passingFunction : passingFunction.HasViews passingFunctionViews where
  fields_eq := rfl
  independent := by
    -- Of each two fields, the keys are different, and neither is entered into the other.
    simp only [passingFunctionViews, List.pairwise_cons, List.forall_mem_cons]
    repeat' constructor
    all_goals simp
  get_enter := by simp [passingFunctionViews]
  get_blank := by simp [passingFunctionViews, passingFunction]

/-- **The function of a passing case is read.** -/
theorem reads_passingFunction :
    Reads passingFunction.decode passingFunctionOf passingFunctionShape := by
  refine hasViews_passingFunction.reads_decode rfl ?_ ?_
  -- Whichever field is not of its kind, there is no function.
  · intro tree field hfield hnone
    simp only [passingFunctionViews, List.mem_cons, List.not_mem_nil, or_false] at hfield
    rcases hfield with rfl | rfl <;>
      simp [passingFunctionOf, callsOf, Tree.required_eq, Tree.defaulted_eq, hnone]
  -- If all fields are of their kinds, what the draft lacks is what the value lacks.
  · intro tree draft hsome
    simp only [passingFunctionViews, List.forall_mem_cons] at hsome
    simp [passingFunctionOf, callsOf, Tree.required_eq, Tree.defaulted_eq, hsome, passingFunction]

/-- The fields of the function of a failing case. -/
def failingFunctionViews : List (FieldView FailingFunction) :=
  [⟨"def_id", true, (·.id), fun id draft => { draft with id := some id }, Json.string,
      Tree.string?, .any, reads_string⟩,
    ⟨"calls", false, (·.calls), fun calls draft => { draft with calls := some calls }, calls,
      Tree.listOf calleeOf, .list calleeShape, reads_sequence reads_callee⟩,
    ⟨"has_body", true, (·.hasBody), fun flag draft => { draft with hasBody := some flag }, boolean,
      Tree.boolean?, .any, reads_boolean⟩]

/-- They are those of the record. -/
theorem hasViews_failingFunction : failingFunction.HasViews failingFunctionViews where
  fields_eq := rfl
  independent := by
    simp only [failingFunctionViews, List.pairwise_cons, List.forall_mem_cons]
    repeat' constructor
    all_goals simp
  get_enter := by simp [failingFunctionViews]
  get_blank := by simp [failingFunctionViews, failingFunction]

/-- **The function of a failing case is read.** -/
theorem reads_failingFunction :
    Reads failingFunction.decode failingFunctionOf failingFunctionShape := by
  refine hasViews_failingFunction.reads_decode rfl ?_ ?_
  · intro tree field hfield hnone
    simp only [failingFunctionViews, List.mem_cons, List.not_mem_nil, or_false] at hfield
    rcases hfield with rfl | rfl | rfl <;>
      simp [failingFunctionOf, callsOf, Tree.required_eq, Tree.defaulted_eq, hnone]
  · intro tree draft hsome
    simp only [failingFunctionViews, List.forall_mem_cons] at hsome
    simp [failingFunctionOf, callsOf, Tree.required_eq, Tree.defaulted_eq, hsome, failingFunction]

/-- The fields of a passing case. -/
def passingCaseViews : List (FieldView PassingDraft) :=
  [⟨"function", true, (·.function), fun function draft => { draft with function := some function },
      passingFunction.decode, passingFunctionOf, passingFunctionShape, reads_passingFunction⟩,
    ⟨"allowlisted", true, (·.allowlisted),
      fun flag draft => { draft with allowlisted := some flag }, boolean, Tree.boolean?, .any,
      reads_boolean⟩,
    ⟨"important_locals", true, (·.importantLocals),
      fun locals draft => { draft with importantLocals := some locals }, sequence value,
      Tree.listOf (some ·.toValue), .list .any, reads_sequence reads_value⟩]

/-- They are those of the record. -/
theorem hasViews_passingCase : passingCase.HasViews passingCaseViews where
  fields_eq := rfl
  independent := by
    simp only [passingCaseViews, List.pairwise_cons, List.forall_mem_cons]
    repeat' constructor
    all_goals simp
  get_enter := by simp [passingCaseViews]
  get_blank := by simp [passingCaseViews, passingCase]

/-- **Passing cases are read.** -/
theorem reads_passingCase : Reads passingCase.decode passingCaseOf passingCaseShape := by
  refine hasViews_passingCase.reads_decode rfl ?_ ?_
  · intro tree field hfield hnone
    simp only [passingCaseViews, List.mem_cons, List.not_mem_nil, or_false] at hfield
    rcases hfield with rfl | rfl | rfl <;> simp [passingCaseOf, Tree.required_eq, hnone]
  · intro tree draft hsome
    simp only [passingCaseViews, List.forall_mem_cons] at hsome
    simp [passingCaseOf, Tree.required_eq, hsome, passingCase]

/-- The fields of a failing case. -/
def failingCaseViews : List (FieldView FailingDraft) :=
  [⟨"function", true, (·.function), fun function draft => { draft with function := some function },
      failingFunction.decode, failingFunctionOf, failingFunctionShape, reads_failingFunction⟩,
    ⟨"raw_pointer_deref", true, (·.rawPointerDeref),
      fun flag draft => { draft with rawPointerDeref := some flag }, boolean, Tree.boolean?, .any,
      reads_boolean⟩,
    ⟨"has_transmute", true, (·.hasTransmute),
      fun flag draft => { draft with hasTransmute := some flag }, boolean, Tree.boolean?, .any,
      reads_boolean⟩]

/-- They are those of the record. -/
theorem hasViews_failingCase : failingCase.HasViews failingCaseViews where
  fields_eq := rfl
  independent := by
    simp only [failingCaseViews, List.pairwise_cons, List.forall_mem_cons]
    repeat' constructor
    all_goals simp
  get_enter := by simp [failingCaseViews]
  get_blank := by simp [failingCaseViews, failingCase]

/-- **Failing cases are read.** -/
theorem reads_failingCase : Reads failingCase.decode failingCaseOf failingCaseShape := by
  refine hasViews_failingCase.reads_decode rfl ?_ ?_
  · intro tree field hfield hnone
    simp only [failingCaseViews, List.mem_cons, List.not_mem_nil, or_false] at hfield
    rcases hfield with rfl | rfl | rfl <;> simp [failingCaseOf, Tree.required_eq, hnone]
  · intro tree draft hsome
    simp only [failingCaseViews, List.forall_mem_cons] at hsome
    simp [failingCaseOf, Tree.required_eq, hsome, failingCase]

/-- The fields of a region. -/
def regionViews : List (FieldView RegionDraft) :=
  [⟨"def_id", true, (·.id), fun id draft => { draft with id := some id }, Json.string,
      Tree.string?, .any, reads_string⟩,
    ⟨"status", false, (·.status), fun status draft => { draft with status := some status },
      optionalBoolean, Tree.orNull Tree.boolean?, .any, reads_optionalBoolean⟩,
    ⟨"reason", false, (·.reason), fun reason draft => { draft with reason := some reason },
      optionalString, Tree.orNull Tree.string?, .any, reads_optionalString⟩,
    ⟨"annotated_pure", false, (·.annotatedPure),
      fun annotation draft => { draft with annotatedPure := some annotation }, optionalBoolean,
      Tree.orNull Tree.boolean?, .any, reads_optionalBoolean⟩,
    ⟨"passing", true, (·.passing), fun cases draft => { draft with passing := some cases },
      sequence passingCase.decode, Tree.listOf passingCaseOf, .list passingCaseShape,
      reads_sequence reads_passingCase⟩,
    ⟨"failing", true, (·.failing), fun cases draft => { draft with failing := some cases },
      sequence failingCase.decode, Tree.listOf failingCaseOf, .list failingCaseShape,
      reads_sequence reads_failingCase⟩]

/-- They are those of the record. -/
theorem hasViews_region : region.HasViews regionViews where
  fields_eq := rfl
  independent := by
    simp only [regionViews, List.pairwise_cons, List.forall_mem_cons]
    repeat' constructor
    all_goals simp
  get_enter := by simp [regionViews]
  get_blank := by simp [regionViews, region]

/-- **Regions are read.** -/
theorem reads_region : Reads region.decode regionOf regionShape := by
  refine hasViews_region.reads_decode rfl ?_ ?_
  · intro tree field hfield hnone
    simp only [regionViews, List.mem_cons, List.not_mem_nil, or_false] at hfield
    rcases hfield with rfl | rfl | rfl | rfl | rfl | rfl <;>
      simp [regionOf, Tree.required_eq, Tree.nullable_eq, hnone]
  · intro tree draft hsome
    simp only [regionViews, List.forall_mem_cons] at hsome
    simp [regionOf, Tree.required_eq, Tree.nullable_eq, hsome, region]

/-- The fields of a document. -/
def documentViews : List (FieldView DocumentDraft) :=
  [⟨"crate_name", true, (·.crateName), fun name draft => { draft with crateName := some name },
      Json.string, Tree.string?, .any, reads_string⟩,
    ⟨"elapsed", true, (·.elapsed), fun elapsed draft => { draft with elapsed := some elapsed },
      double, Tree.double?, .any, reads_double⟩,
    ⟨"results", true, (·.regions), fun regions draft => { draft with regions := some regions },
      sequence region.decode, Tree.listOf regionOf, .list regionShape, reads_sequence reads_region⟩]

/-- They are those of the record. -/
theorem hasViews_document : document.HasViews documentViews where
  fields_eq := rfl
  independent := by
    simp only [documentViews, List.pairwise_cons, List.forall_mem_cons]
    repeat' constructor
    all_goals simp
  get_enter := by simp [documentViews]
  get_blank := by simp [documentViews, document]

/-- **Documents are read.** -/
theorem reads_document : Reads document.decode documentOf documentShape := by
  refine hasViews_document.reads_decode rfl ?_ ?_
  · intro tree field hfield hnone
    simp only [documentViews, List.mem_cons, List.not_mem_nil, or_false] at hfield
    rcases hfield with rfl | rfl | rfl <;> simp [documentOf, Tree.required_eq, hnone]
  · intro tree draft hsome
    simp only [documentViews, List.forall_mem_cons] at hsome
    simp [documentOf, Tree.required_eq, hsome, document]

end Schema

end CallForest
