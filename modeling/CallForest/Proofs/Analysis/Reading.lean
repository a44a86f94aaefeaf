import CallForest.Proofs.Analysis.Schema
import CallForest.Proofs.Json.Compact

/-! # Reading analysis documents

Whatever text of a JSON value is read, the outcome is the document of the value: how the text is
written does not matter, nor does what nobody looks at. Records have to be written as objects for
this, keys must not be repeated, enclosures must not be nested deeper than the reader follows, and
no number may be out of range.

* `Schema.Writes`: texts of values that are read.
* `Document.parse_of_writes`: what they are read as.
* `Schema.callsTree`, `Document.parse_callsTree`: documents whose functions call each other. -/

namespace CallForest

open Json

/-- A text that **writes** a value which can be read: no key of an object comes twice, numbers are
in range, enclosures are not nested too deep, and no list stands in place of a record. -/
structure Schema.Writes (tree : Tree) (bytes : Bytes) : Prop where
  /-- The text is one of the value. -/
  isDocument : tree.IsDocument bytes
  /-- No key comes twice, and no number is out of range. -/
  sound : tree.Sound
  /-- Enclosures are not nested too deep. -/
  depth_le : tree.depth ≤ Json.budget
  /-- Records are not written as lists. -/
  plain : Schema.documentShape.Plain tree

variable {tree : Tree} {bytes : Bytes}

/-- A text is read as the document of its value. -/
theorem Document.toOption_parse (origin : String) (hwrites : Schema.Writes tree bytes) :
    (Document.parse origin bytes).toOption = Schema.documentOf tree := by
  have hread := toOption_decodeDocument Schema.reads_document hwrites.isDocument hwrites.sound
    hwrites.depth_le hwrites.plain
  rw [Document.parse, ← hread]
  cases decodeDocument Schema.document.decode bytes <;> rfl

/-- A document is refused under its name. -/
theorem Document.origin_of_parse {origin : String} {error : SchemaError}
    (hparse : Document.parse origin bytes = .error error) : error.origin = origin := by
  rw [Document.parse] at hparse
  split at hparse
  · cases hparse
  · cases hparse
    rfl

/-- **What a text is read as**: the document of its value, if the value has the shape of one, and
otherwise it is refused under its name. Any other text of the value gives the same document; so does
a text of another value that differs only in the order of keys and in keys nobody looks at, but for
the order of keys in what is kept. -/
theorem Document.parse_of_writes (origin : String) (hwrites : Schema.Writes tree bytes) :
    (match Schema.documentOf tree with
      | some document => Document.parse origin bytes = .ok document
      | none => ∃ error, Document.parse origin bytes = .error error ∧ error.origin = origin) ∧
      ∀ {other : Tree} {bytes' : Bytes}, Schema.Writes other bytes' →
        Schema.documentShape.Alike tree other →
        Option.Rel Document.Same (Document.parse origin bytes).toOption
          (Document.parse origin bytes').toOption := by
  have hread := Document.toOption_parse origin hwrites
  refine ⟨?_, fun hwrites' halike => ?_⟩
  -- What is refused is refused under its name, so that the document is all that is left to compare.
  · rw [← hread]
    cases hparse : Document.parse origin bytes with
    | ok document => rfl
    | error error => exact ⟨error, rfl, Document.origin_of_parse hparse⟩
  · rw [hread, Document.toOption_parse origin hwrites']
    exact Schema.respects_documentOf halike

/-! ### A document -/

namespace Schema

/-- A **region without verdicts**. -/
def quietRegion : Tree :=
  .object [("def_id", .string "f"), ("passing", .list []), ("failing", .list []), ("reason", .null)]

/-- A text of this region. -/
def quietRegionText : String :=
  "\x7b\"def_id\":\"f\",\"passing\":[],\"failing\":[],\"reason\":null\x7d"

/-- It is one. -/
theorem isText_quietRegion : quietRegion.IsText (Bytes.ofText quietRegionText) := by
  rw [Utf8.ofText_eq_encode]
  exact .object
    (isMembers_next "def_id" (by decide) (.string (isString_encode "f" (by decide)))
    (isMembers_next "passing" (by decide) (.emptyList isBlanks_nil)
    (isMembers_next "failing" (by decide) (.emptyList isBlanks_nil)
    (isMembers_last "reason" (by decide) .null))))

/-- A **document with this region**, for which the analysis took some time. -/
def quiet (elapsed : Numeral) : Tree :=
  .object [("crate_name", .string "c"), ("elapsed", .number false elapsed),
    ("results", .list [quietRegion])]

/-- A text of this document, with a text of the time. -/
def quietText (elapsed : String) : Bytes :=
  Bytes.ofText ("\x7b\"crate_name\":\"c\",\"elapsed\":" ++ elapsed ++ ",\"results\":[" ++
    quietRegionText ++ "]\x7d")

variable {elapsed : Numeral} {time : String}

/-- It is one. -/
theorem isDocument_quiet (htext : elapsed.IsText (Bytes.ofText time)) :
    (quiet elapsed).IsDocument (quietText time) := by
  have hregions := Tree.IsText.list (.last isBlanks_nil isText_quietRegion isBlanks_nil)
  have hdocument := Tree.IsDocument.intro isBlanks_nil
    (.object (isMembers_next "crate_name" (by decide) (.string (isString_encode "c" (by decide)))
      (isMembers_next "elapsed" (by decide) (.positive htext)
      (isMembers_last "results" (by decide) hregions)))) isBlanks_nil
  simp only [quietText, Utf8.ofText_eq_encode, String.toList_append, Utf8.encode_append,
    List.nil_append, List.append_nil, List.cons_append, List.append_assoc] at hdocument ⊢
  exact hdocument

/-- No key comes twice. -/
theorem hasDistinctKeys_quiet : (quiet elapsed).All Tree.HasDistinctKeys := by
  simp [quiet, quietRegion, Tree.HasDistinctKeys]

/-- Four enclosures lie inside one another. -/
theorem depth_quiet : (quiet elapsed).depth = 4 := by
  simp [quiet, quietRegion, Tree.depth, Tree.depthOfElements, Tree.depthOfMembers]

/-- No list stands in place of a record. -/
theorem plain_quiet : documentShape.Plain (quiet elapsed) := by
  simp [documentShape, regionShape, quiet, quietRegion, Tree.field?, Tree.elements,
    List.lookup_cons]

/-- The document is read if the time is in range. -/
theorem writes_quiet (htext : elapsed.IsText (Bytes.ofText time))
    (hinRange : (elapsed.evaluate false).isOk = true) :
    Writes (quiet elapsed) (quietText time) where
  isDocument := isDocument_quiet htext
  sound := ⟨hasDistinctKeys_quiet, by simp [quiet, quietRegion, Tree.IsInRange, hinRange]⟩
  depth_le := by rw [depth_quiet]; decide
  plain := plain_quiet

/-- No time at all. -/
def noTime : Numeral := ⟨[0x30], none, none⟩

/-- Its text is a zero. -/
theorem isText_noTime : noTime.IsText (Bytes.ofText "0") := by
  have hwhole : IsDigits [0x30] := ⟨by decide, List.all_eq_true.1 rfl⟩
  rw [Utf8.ofText_eq_encode]
  exact @Numeral.IsText.intro [0x30] [] [] none none hwhole (fun _ => rfl) rfl rfl

/-- The same document with its keys in another order, and another key between them. -/
def quietExchanged : Tree :=
  .object [("results", .list [quietRegion]), ("note", .boolean true),
    ("elapsed", .number false noTime), ("crate_name", .string "c")]

/-- A text of it with a blank in front and an escape. -/
def quietExchangedText : Bytes :=
  Bytes.ofText (" \x7b\"results\":[" ++ quietRegionText ++ "],\"note\":true,\"elapsed\":0," ++
    "\"crate_name\":\"\\u0063\"\x7d")

/-- It is read. -/
theorem writes_quietExchanged : Writes quietExchanged quietExchangedText where
  isDocument := by
    have hregions := Tree.IsText.list (.last isBlanks_nil isText_quietRegion isBlanks_nil)
    have hdigits : IsFourHex 0x63 [0x30, 0x30, 0x36, 0x33] :=
      @IsFourHex.intro 0 0 6 3 _ _ _ _ (.inl (by decide)) (.inl (by decide)) (.inl (by decide))
        (.inl (by decide))
    have hcontent : IsContent "c".toList (0x5c :: 0x75 :: ([0x30, 0x30, 0x36, 0x33] ++ [])) :=
      @IsContent.number 'c' [] _ _ hdigits .nil
    have hblank : IsBlanks [0x20] := by simp [IsBlanks, isBlank]
    have hdocument := Tree.IsDocument.intro hblank
      (.object (isMembers_next "results" (by decide) hregions
        (isMembers_next "note" (by decide) .true
        (isMembers_next "elapsed" (by decide) (.positive isText_noTime)
        (isMembers_last "crate_name" (by decide) (.string (.intro hcontent))))))) isBlanks_nil
    simp only [quietExchangedText, Utf8.ofText_eq_encode, String.toList_append, Utf8.encode_append,
      List.nil_append, List.append_nil, List.cons_append, List.append_assoc] at hdocument ⊢
    exact hdocument
  sound := ⟨by simp [quietExchanged, quietRegion, Tree.HasDistinctKeys],
    by simp [quietExchanged, quietRegion, Tree.IsInRange]; decide⟩
  depth_le := by
    simp [quietExchanged, quietRegion, Tree.depth, Tree.depthOfElements, Tree.depthOfMembers,
      Json.budget]
  plain := by
    simp [documentShape, regionShape, quietExchanged, quietRegion, Tree.field?, Tree.elements,
      List.lookup_cons]

/-! ### Documents with calls -/

/-- A compact text is read. -/
theorem writes_compact (hplain : tree.All Tree.IsPlain) (hsound : tree.Sound)
    (hdepth : tree.depth ≤ Json.budget) (hshape : documentShape.Plain tree) :
    Writes tree tree.compact where
  isDocument := by
    simpa using Tree.IsDocument.intro isBlanks_nil (Tree.isText_compact hplain) isBlanks_nil
  sound := hsound
  depth_le := hdepth
  plain := hshape

/-- The tree of a function that is called. -/
def calleeTree (id : String) : Tree := .object [("def_id", .string id)]

/-- The tree of a **region with a call**: its function fails and calls another one, which passes and
calls a third one. -/
def callTree (call : String × String) : Tree :=
  .object [("def_id", .string call.1), ("status", .boolean false),
    ("passing", .list [.object [
      ("function", .object [("def_id", .string call.2), ("calls", .list [calleeTree "leaf"])]),
      ("allowlisted", .boolean true), ("important_locals", .list [.null, .string "_1"])]]),
    ("failing", .list [.object [
      ("function", .object [("def_id", .string call.1), ("calls", .list [calleeTree call.2]),
        ("has_body", .boolean true)]),
      ("raw_pointer_deref", .boolean false), ("has_transmute", .boolean true)]])]

/-- The tree of a **document with calls**, one in each region. -/
def callsTree (calls : List (String × String)) : Tree :=
  .object [("crate_name", .string "demo"), ("elapsed", .number false noTime),
    ("results", .list (calls.map callTree))]

variable {calls : List (String × String)}

/-- Eight enclosures lie inside one another at most. -/
theorem depth_callsTree_le (calls : List (String × String)) : (callsTree calls).depth ≤ 8 := by
  have hregions : Tree.depthOfElements (calls.map callTree) ≤ 6 := by
    induction calls with
    | nil => exact Nat.zero_le _
    | cons call calls ih =>
        rw [List.map_cons, Tree.depthOfElements]
        refine Nat.max_le.2 ⟨?_, ih⟩
        simp [callTree, calleeTree, Tree.depth, Tree.depthOfElements, Tree.depthOfMembers]
  simp only [callsTree, Tree.depth, Tree.depthOfMembers]
  omega

/-- What holds of a document with calls holds of its regions, and of what is around them. -/
theorem all_callsTree_iff {property : Tree → Prop} :
    (callsTree calls).All property ↔ property (callsTree calls) ∧ property (.string "demo") ∧
      property (.number false noTime) ∧ property (.list (calls.map callTree)) ∧
        ∀ call ∈ calls, (callTree call).All property := by
  simp only [callsTree, Tree.all_object_iff, List.forall_mem_cons, Tree.all_list_iff,
    Tree.all_string_iff, Tree.all_number_iff, List.forall_mem_map, List.not_mem_nil, false_implies,
    implies_true, and_true]

/-- In a region with a call no list stands in place of a record. -/
theorem plain_callTree (call : String × String) : regionShape.Plain (callTree call) := by
  simp [regionShape, passingCaseShape, failingCaseShape, passingFunctionShape, failingFunctionShape,
    calleeShape, callTree, calleeTree, Tree.field?, Tree.elements, List.lookup_cons]

/-- The compact text of a document with calls can be read if its names need no escapes. -/
theorem writes_callsTree (calls : List (String × String))
    (hplain : ∀ call ∈ calls, call.1.toList.all Json.isPlain = true ∧
      call.2.toList.all Json.isPlain = true) :
    Writes (callsTree calls) (callsTree calls).compact := by
  have hdepth := Nat.le_trans (depth_callsTree_le calls) (show 8 ≤ Json.budget by decide)
  refine writes_compact (all_callsTree_iff.2 ⟨?_, ?_, ?_, trivial, fun call hcall => ?_⟩)
    ⟨all_callsTree_iff.2 ⟨?_, trivial, trivial, trivial, fun call _ => ?_⟩,
      all_callsTree_iff.2 ⟨trivial, trivial, ?_, trivial, fun call _ => ?_⟩⟩ hdepth ?_
  -- Nothing needs an escape.
  · simp only [Tree.IsPlain, callsTree, List.forall_mem_cons, List.not_mem_nil, false_implies,
      implies_true]
    decide
  · simp only [Tree.IsPlain]
    decide
  · have htext := isText_noTime
    rw [Utf8.ofText_eq_encode] at htext
    exact htext
  · obtain ⟨hcaller, hcallee⟩ := hplain call hcall
    simp only [callTree, calleeTree, Tree.IsPlain, Tree.all_object_iff, Tree.all_list_iff,
      Tree.all_string_iff, Tree.all_boolean_iff, Tree.all_null_iff, List.forall_mem_cons,
      List.not_mem_nil, false_implies, implies_true, hcaller, hcallee]
    decide
  -- No key comes twice, and the time is in range.
  · simp [callsTree, Tree.HasDistinctKeys]
  · simp [callTree, calleeTree, Tree.HasDistinctKeys]
  · simp only [Tree.IsInRange]
    decide
  · simp [callTree, calleeTree, Tree.IsInRange]
  -- No list stands in place of a record.
  · have hregions := List.forall_mem_map.2 fun call (_ : call ∈ calls) => plain_callTree call
    simpa [documentShape, callsTree, Tree.field?, Tree.elements, List.lookup_cons] using hregions

end Schema

/-- A region with a call. -/
def Region.ofCallTree (call : String × String) : Region :=
  ⟨call.1, some false, none, none, [⟨call.2, ["leaf"], true, [.null, .string "_1"]⟩],
    [⟨call.1, [call.2], true, false, true⟩]⟩

/-- A document with calls. -/
def Document.ofCalls (calls : List (String × String)) : Document :=
  ⟨"demo", ⟨false, 0⟩, calls.map .ofCallTree⟩

/-- What the tree of a document with calls says. -/
theorem Schema.documentOf_callsTree (calls : List (String × String)) :
    documentOf (callsTree calls) = some (.ofCalls calls) := by
  have hregions : Tree.listOf regionOf (.list (calls.map callTree)) =
      some (calls.map .ofCallTree) := by
    refine Tree.listOf_eq_some_iff.2 ⟨_, rfl, ?_⟩
    rw [List.forall₂_map_left_iff, List.forall₂_map_right_iff, List.forall₂_same]
    exact fun call _ => rfl
  change (Tree.listOf regionOf (.list (calls.map callTree))).bind _ = _
  rw [hregions]
  rfl

/-- **A document is read**, and read again from a text in which its keys stand in another order,
with another key between them, a blank in front and an escape. So is one whose functions pass, fail
and call each other. -/
theorem Document.parse_of_writes_quiet :
    Document.parse "doc" (Schema.quietText "0") =
        .ok ⟨"c", ⟨false, 0⟩, [⟨"f", none, none, none, [], []⟩]⟩ ∧
      (∃ document, Document.parse "doc" Schema.quietExchangedText = .ok document ∧
        Document.Same ⟨"c", ⟨false, 0⟩, [⟨"f", none, none, none, [], []⟩]⟩ document) ∧
      Document.parse "doc" (Schema.callsTree [("f", "g"), ("g", "g")]).compact =
        .ok ⟨"demo", ⟨false, 0⟩,
          [⟨"f", some false, none, none, [⟨"g", ["leaf"], true, [.null, .string "_1"]⟩],
              [⟨"f", ["g"], true, false, true⟩]⟩,
            ⟨"g", some false, none, none, [⟨"g", ["leaf"], true, [.null, .string "_1"]⟩],
              [⟨"g", ["g"], true, false, true⟩]⟩]⟩ := by
  obtain ⟨hread, hother⟩ := Document.parse_of_writes "doc"
    (Schema.writes_quiet Schema.isText_noTime (by decide))
  have hdocument : Schema.documentOf (Schema.quiet Schema.noTime) =
      some ⟨"c", ⟨false, 0⟩, [⟨"f", none, none, none, [], []⟩]⟩ := by
    rfl
  have halike : Schema.documentShape.Alike (Schema.quiet Schema.noTime) Schema.quietExchanged := by
    refine .record (by simp [List.lookup_cons]) ?_
    simp [List.lookup_cons, Shape.Alike.same Tree.Same.refl]
  obtain ⟨hcalls, -⟩ := Document.parse_of_writes "doc"
    (Schema.writes_callsTree [("f", "g"), ("g", "g")] (by decide))
  rw [Schema.documentOf_callsTree] at hcalls
  rw [hdocument] at hread
  refine ⟨hread, ?_, hcalls⟩
  have hsame := hother Schema.writes_quietExchanged halike
  rw [hread] at hsame
  cases hparse : Document.parse "doc" Schema.quietExchangedText with
  | error error =>
      rw [hparse] at hsame
      cases hsame
  | ok document =>
      rw [hparse] at hsame
      cases hsame with
      | some hsame => exact ⟨document, rfl, hsame⟩

/-! ### Numbers that are finite but out of range -/

namespace Json

/-- The magnitude of the double **nearest** to a numeral. -/
def Numeral.nearest (numeral : Numeral) : Nat :=
  let fraction := numeral.fraction.getD []
  let digits := numeral.whole ++ fraction
  let number := fun digits : Bytes =>
    digits.foldl (fun read digit => read * 10 + digitValue digit) 0
  let power : Int := match numeral.exponent with
    | none => 0
    | some exponent => if exponent.negative then -number exponent.digits else number exponent.digits
  Binary64.ofDecimal (number digits) digits.length (power - fraction.length)

/-- A number to which a **finite** double is nearest, or anything else. -/
def Tree.IsFinite : Tree → Prop
  | .number _ numeral => Binary64.isFinite numeral.nearest = true
  | _ => True

end Json

/-- A time slightly below the greatest double. -/
def Schema.greatTime : Numeral :=
  ⟨Utf8.encode "1797693134862315708".toList, none, some ⟨false, Utf8.encode "290".toList⟩⟩

/-- Its text. -/
theorem Schema.isText_greatTime : greatTime.IsText (Bytes.ofText "1797693134862315708e290") := by
  have hexponent : Exponent.IsText ⟨false, Utf8.encode "290".toList⟩
      (0x65 :: ([] ++ Utf8.encode "290".toList)) :=
    .intro (.inl rfl) List.mem_cons_self ⟨by decide, List.all_eq_true.1 (by decide)⟩
  rw [Utf8.ofText_eq_encode]
  exact @Numeral.IsText.intro (Utf8.encode "1797693134862315708".toList) [] _ none _
    ⟨by decide, List.all_eq_true.1 (by decide)⟩ (fun hzero => nomatch hzero) rfl hexponent

/-- **Not every finite number is in range**: a document of the right shape, in which a finite double
is nearest to each number, is refused, because its time is rounded twice when it is read. -/
theorem Document.parse_greatTime :
    let tree := Schema.quiet Schema.greatTime
    let bytes := Schema.quietText "1797693134862315708e290"
    (tree.IsDocument bytes ∧ tree.All Tree.HasDistinctKeys ∧ tree.depth ≤ Json.budget ∧
        tree.All Tree.IsFinite ∧ Schema.documentShape.Plain tree) ∧
      (tree.required "crate_name" Tree.string? = some "c" ∧
        tree.field? "elapsed" = some (.number false Schema.greatTime) ∧
        tree.required "results" (Tree.listOf Schema.regionOf) =
          some [⟨"f", none, none, none, [], []⟩]) ∧
      (Document.parse "doc" bytes).isOk = false := by
  -- Nineteen digits fit into a word, whose nearest double is a little too great.
  have hfinite : Binary64.isFinite Schema.greatTime.nearest = true := by decide +kernel
  refine ⟨⟨Schema.isDocument_quiet Schema.isText_greatTime, Schema.hasDistinctKeys_quiet, ?_, ?_,
    Schema.plain_quiet⟩, ⟨rfl, rfl, rfl⟩, by decide +kernel⟩
  · rw [Schema.depth_quiet]
    decide
  · simp [Schema.quiet, Schema.quietRegion, Tree.IsFinite, hfinite]

end CallForest
