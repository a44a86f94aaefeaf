import CallForest.Proofs.Json.Value
import CallForest.Proofs.ListSplit
import CallForest.Json.Record
import Mathlib.Data.List.Pairwise

/-! # Reading records

Decoders of scalars, lists and records by their views. The members of an object come in any order,
with others between them that nobody asked for. Because the fields of a draft are independent of one
another and no key comes twice, the draft has what a lookup finds for each field, once the members
are read.

* `Json.reads_scalarOf`, `Json.reads_sequence`: scalars of a kind, and lists.
* `Json.FieldView`, `Json.Record.HasViews`: fields with their views, and the fields of a record.
* `Json.Record.readMembers_of_membersAt`: the draft that members give.
* `Json.Record.HasViews.reads_decode`: records.
* `Json.toOption_decodeDocument`: whole documents. -/

namespace CallForest

namespace Json

variable {α σ : Type}

/-! ### Scalars and lists -/

/-- **A scalar of a kind is read**, if the tree is one. -/
theorem reads_scalarOf (wanted : String) (select : Scalar → Option α) :
    Reads (scalarOf wanted select) (fun tree => tree.scalar?.bind select) .any :=
  fun _ _ hsound _ _ _ _ _ hblanks htext hrest => outcome_scalarOf hblanks htext hsound hrest

/-- The elements of a list, each by a view. -/
def Tree.listOf (view : Tree → Option α) : Tree → Option (List α)
  | .list elements => elements.mapM view
  | _ => none

variable {bytes blanks text rest : Bytes} {tree : Tree} {count : Nat} {decode : Decoder α}
  {view : Tree → Option α} {shape : Shape}

/-- Behind an opening bracket, the elements of a list are read. -/
theorem outcome_sequence_list (hbegins : skipBlank bytes = 0x5b :: rest) :
    outcome (sequence decode (count + 1) bytes) = outcome (elements (decode count) rest) := by
  unfold sequence
  dsimp only
  split
  · simp_all
  · rename_i more hsome
    obtain ⟨rfl, rfl⟩ := List.cons.inj (hbegins.symm.trans hsome)
    rw [if_pos rfl]
    cases elements (decode count) rest <;> rfl

/-- Anything else is refused. -/
theorem outcome_sequence_other {byte : UInt8} (hbegins : skipBlank bytes = byte :: rest)
    (hbyte : byte ≠ 0x5b) : outcome (sequence decode count bytes) = none := by
  unfold sequence
  dsimp only
  split
  · rfl
  · rename_i hsome
    obtain ⟨rfl, rfl⟩ := List.cons.inj (hbegins.symm.trans hsome)
    rw [if_neg hbyte]
    rfl

/-- **A list is read** if each of its elements is. -/
theorem reads_sequence (hreads : Reads decode view shape) :
    Reads (sequence decode) (Tree.listOf view) (.list shape) := by
  intro tree budget hsound hdepth hplain blanks text rest hblanks htext hrest
  by_cases hlist : ∃ elements, tree = .list elements
  -- The elements are met one after the other, with a budget that is one less.
  · obtain ⟨elements, rfl⟩ := hlist
    obtain ⟨inside, hbegins, hat⟩ := exists_elementsAt hblanks htext rest
    obtain ⟨count, rfl, hcount⟩ := exists_of_succ_le hdepth
    have htakes : ∀ tree ∈ elements, Takes (decode count) view tree := fun tree hmem =>
      hreads (hsound.of_mem_elements hmem)
        (Nat.le_trans (Tree.depth_le_of_mem_elements hmem) hcount)
        (Shape.plain_list_iff.1 hplain tree hmem)
    rw [outcome_sequence_list hbegins, outcome_elements hat htakes]
    rfl
  · have hbegins := skipBlank_text hblanks htext rest
    obtain ⟨byte, more, rfl, -, -, hbyte, -⟩ := Tree.exists_cons_of_isText htext
    rw [outcome_sequence_other hbegins (mt hbyte.1 hlist)]
    cases tree with
    | list elements => exact absurd ⟨elements, rfl⟩ hlist
    | null | boolean | number | string | object => rfl

/-! ### Fields -/

/-- What a view gives of something that need not be there. -/
def Tree.optional (view : Tree → Option α) : Option Tree → Option (Option α)
  | none => some none
  | some tree => (view tree).map some

/-- A field of a record whose drafts are of type `σ`, with the **view** by which it is read. -/
structure FieldView (σ : Type) where
  /-- The type of its values. -/
  {type : Type}
  /-- The key of the field. -/
  name : String
  /-- Whether a record that is written as a list must reach as far as this field. -/
  required : Bool
  /-- The value that a draft has, if it has one. -/
  get : σ → Option type
  /-- How a value is entered into a draft. -/
  enter : type → σ → σ
  /-- The decoder of its values. -/
  decode : Decoder type
  /-- The view of its values. -/
  view : Tree → Option type
  /-- What is wanted of its values. -/
  shape : Shape
  /-- Its values are read by the view. -/
  reads : Reads decode view shape

namespace FieldView

/-- The field without its view. -/
def field (field : FieldView σ) : Field σ :=
  .of field.name field.required (fun draft => (field.get draft).isSome) field.decode field.enter

/-- Two fields that are **independent**: what is entered for one is not found in the other. -/
structure Independent (left right : FieldView σ) : Prop where
  /-- They have different keys. -/
  name_ne : left.name ≠ right.name
  /-- Entering the first does not change the second. -/
  get_left : ∀ value draft, right.get (left.enter value draft) = right.get draft
  /-- Entering the second does not change the first. -/
  get_right : ∀ value draft, left.get (right.enter value draft) = left.get draft

/-- Independence works both ways. -/
instance : Std.Symm (@Independent σ) where
  symm _ _ hindependent :=
    ⟨hindependent.name_ne.symm, hindependent.get_right, hindependent.get_left⟩

/-- One draft comes from another as far as a field is concerned: by **entering what is found** for
it, or by nothing if nothing is found. -/
def Enters (field : FieldView σ) (found : Option Tree) (before after : σ) : Prop :=
  match found with
  | none => field.get after = field.get before
  | some tree => ∃ value, field.view tree = some value ∧ field.get after = some value

end FieldView

/-! ### Records -/

/-- A record **has views** if its fields are those of the views, which are independent and are found
where they are entered, and a blank draft has none of them. -/
structure Record.HasViews (record : Record σ α) (views : List (FieldView σ)) : Prop where
  /-- The fields are those of the views. -/
  fields_eq : record.fields = views.map FieldView.field
  /-- The fields are independent. -/
  independent : views.Pairwise FieldView.Independent
  /-- What is entered for a field is found there. -/
  get_enter : ∀ field ∈ views, ∀ value draft, field.get (field.enter value draft) = some value
  /-- A blank draft has no field. -/
  get_blank : ∀ field ∈ views, field.get record.blank = none

namespace Record

variable {record : Record σ α} {views : List (FieldView σ)} {budget : Nat} {first : Bool}
  {draft : σ} {behind : Bytes} {name : String} {members : List (String × Tree)}

/-- A member that nobody asked for is passed over. -/
theorem readMembers_unknown (hnext : nextMember first bytes = .ok (true, rest))
    (hkey : outcome (key rest) = some (name, behind))
    (hfind : record.fields.find? (·.name = name) = none) :
    (record.readMembers budget first draft bytes).toOption =
      (outcome (keyed passValue behind)).bind fun taken =>
        (record.readMembers budget false draft taken.2).toOption := by
  obtain ⟨hshorter, hread⟩ := outcome_eq_some_iff.1 hkey
  rw [readMembers]
  split
  · simp_all
  · simp_all
  · rename_i left hfound
    obtain rfl : left = rest := (Prod.mk.inj (Except.ok.inj (hfound.symm.trans hnext))).2
    dsimp only
    rw [hread]
    dsimp only
    rw [hfind]
    dsimp only
    cases keyed passValue behind <;> rfl

/-- A field is decoded and entered. -/
theorem readMembers_known {field : Field σ} (hnext : nextMember first bytes = .ok (true, rest))
    (hkey : outcome (key rest) = some (name, behind))
    (hfind : record.fields.find? (·.name = name) = some field)
    (hgiven : field.given draft = false) :
    (record.readMembers budget first draft bytes).toOption =
      (outcome (keyed (field.decode budget) behind)).bind fun taken =>
        (record.readMembers budget false (taken.1 draft) taken.2).toOption := by
  obtain ⟨hshorter, hread⟩ := outcome_eq_some_iff.1 hkey
  rw [readMembers]
  split
  · simp_all
  · simp_all
  · rename_i left hfound
    obtain rfl : left = rest := (Prod.mk.inj (Except.ok.inj (hfound.symm.trans hnext))).2
    dsimp only
    rw [hread]
    dsimp only
    rw [hfind]
    dsimp only
    rw [hgiven]
    cases keyed (field.decode budget) behind <;> rfl

/-- Which field a key belongs to. -/
theorem HasViews.find?_eq (hviews : record.HasViews views) (name : String) :
    record.fields.find? (·.name = name) =
      (views.find? (·.name = name)).map FieldView.field := by
  rw [hviews.fields_eq, List.find?_map]
  rfl

/-- A member that nobody asked for leaves the draft as it is. -/
theorem readMembers_of_unknown {key colon blanks text tail : Bytes}
    (hnext : nextMember first bytes =
      .ok (true, key ++ (colon ++ 0x3a :: (blanks ++ (text ++ tail)))))
    (hkey : IsString name key) (hcolon : IsBlanks colon) (hblanks : IsBlanks blanks)
    (htext : tree.IsText text) (htail : Delimited tail) (hsound : tree.Sound)
    (hviews : record.HasViews views) (hfind : views.find? (·.name = name) = none) :
    (record.readMembers budget first draft bytes).toOption =
      (record.readMembers budget false draft tail).toOption := by
  have hunknown : record.fields.find? (·.name = name) = none := by
    rw [hviews.find?_eq, hfind]
    rfl
  rw [readMembers_unknown hnext (outcome_key hkey _) hunknown, outcome_keyed _ hcolon,
    outcome_passValue hblanks htext hsound htail]
  rfl

/-- What is found for a field is entered, if it is of its kind. -/
theorem readMembers_of_known {key colon blanks text tail : Bytes} {field : FieldView σ}
    (hnext : nextMember first bytes =
      .ok (true, key ++ (colon ++ 0x3a :: (blanks ++ (text ++ tail)))))
    (hkey : IsString name key) (hcolon : IsBlanks colon) (hblanks : IsBlanks blanks)
    (htext : tree.IsText text) (htail : Delimited tail) (hsound : tree.Sound)
    (hdepth : tree.depth ≤ budget) (hplain : field.shape.Plain tree)
    (hviews : record.HasViews views) (hfind : views.find? (·.name = name) = some field)
    (hnone : field.get draft = none) :
    (record.readMembers budget first draft bytes).toOption =
      (field.view tree).bind fun value =>
        (record.readMembers budget false (field.enter value draft) tail).toOption := by
  have hknown : record.fields.find? (·.name = name) = some field.field := by
    rw [hviews.find?_eq, hfind]
    rfl
  have hgiven : field.field.given draft = false := congrArg Option.isSome hnone
  have hmap : ∀ bytes, outcome (field.field.decode budget bytes) =
      (outcome (field.decode budget bytes)).map (Prod.map field.enter id) :=
    fun _ => outcome_map _ _
  rw [readMembers_known hnext (outcome_key hkey _) hknown hgiven, outcome_keyed _ hcolon, hmap,
    field.reads hsound hdepth hplain hblanks htext htail]
  cases field.view tree <;> rfl

/-- At the closing brace, the draft is filled. -/
theorem readMembers_close (hnext : nextMember first bytes = .ok (false, 0x7d :: rest)) :
    record.readMembers budget first draft bytes = .ok (draft, rest) := by
  rw [readMembers]
  split <;> simp_all

/-- What is entered for one field is not found in another one. -/
theorem HasViews.get_enter_of_ne (hviews : record.HasViews views) {field other : FieldView σ}
    (hmem : field ∈ views) (hother : other ∈ views) (hne : other.name ≠ field.name)
    (value : field.type) (draft : σ) : other.get (field.enter value draft) = other.get draft :=
  (hviews.independent.forall hmem hother fun hsame => hne (hsame ▸ rfl)).get_left value draft

/-- A value that is entered for a field is entered for good if its key does not come again. -/
theorem HasViews.enters_cons (hviews : record.HasViews views) {field : FieldView σ}
    (hmem : field ∈ views) {value : field.type} {filled : σ} (hview : field.view tree = some value)
    (hnew : field.name ∉ members.map Prod.fst) {other : FieldView σ} (hother : other ∈ views)
    (henter : other.Enters (members.lookup other.name) (field.enter value draft) filled) :
    other.Enters (((field.name, tree) :: members).lookup other.name) draft filled := by
  by_cases hsame : other = field
  -- Nothing is found for the field itself any more: it keeps the value.
  · subst hsame
    rw [lookup_eq_none_of_not_mem hnew] at henter
    rw [List.lookup_cons_self]
    exact ⟨value, hview, henter.trans (hviews.get_enter _ hmem value draft)⟩
  -- For another field, nothing has changed.
  · have hname : other.name ≠ field.name := (hviews.independent.forall hother hmem hsame).name_ne
    rw [List.lookup_cons, beq_false_of_ne hname]
    simpa only [FieldView.Enters, hviews.get_enter_of_ne hmem hother hname] using henter

/-- **The members of a record are read** in whatever order they are met, by induction over them: the
values that are found for the fields are entered, unless one of them is not of its kind. No field
that is still to come has a value yet. -/
theorem readMembers_of_membersAt (hviews : record.HasViews views)
    (hat : MembersAt rest first members bytes)
    (hsound : ∀ member ∈ members, member.2.Sound)
    (hdepth : ∀ member ∈ members, member.2.depth ≤ budget)
    (hplain : ∀ field ∈ views, ∀ tree, (field.name, tree) ∈ members → field.shape.Plain tree)
    (hnodup : (members.map Prod.fst).Nodup)
    (hnone : ∀ field ∈ views, field.name ∈ members.map Prod.fst → field.get draft = none) :
    (∃ filled, (record.readMembers budget first draft bytes).toOption = some (filled, rest) ∧
        ∀ field ∈ views, field.Enters (members.lookup field.name) draft filled) ∨
      (record.readMembers budget first draft bytes).toOption = none ∧
        ∃ field ∈ views, ∃ tree,
          members.lookup field.name = some tree ∧ field.view tree = none := by
  induction hat generalizing draft with
  | close hnext =>
      refine .inl ⟨draft, ?_, fun _ _ => rfl⟩
      rw [readMembers_close hnext]
      rfl
  | @next first name tree members bytes _ _ _ _ tail hnext hkey hcolon hblanks htext htail _ ih =>
      obtain ⟨hsound, hsounds⟩ := List.forall_mem_cons.1 hsound
      obtain ⟨hdepth, hdepths⟩ := List.forall_mem_cons.1 hdepth
      obtain ⟨hnew, hnodups⟩ := List.nodup_cons.1 hnodup
      have hplains : ∀ field ∈ views, ∀ tree, (field.name, tree) ∈ members →
          field.shape.Plain tree :=
        fun field hfield tree hmem => hplain field hfield tree (List.mem_cons_of_mem _ hmem)
      have hnones : ∀ field ∈ views, field.name ∈ members.map Prod.fst → field.get draft = none :=
        fun field hfield hmem => hnone field hfield (List.mem_cons_of_mem _ hmem)
      have hlookup : ∀ key, key ≠ name →
          ((name, tree) :: members).lookup key = members.lookup key :=
        fun key hne => by rw [List.lookup_cons, beq_false_of_ne hne]
      cases hfind : views.find? (·.name = name) with
      -- Nobody asked for the member: nothing is entered.
      | none =>
          have hne : ∀ field ∈ views, field.name ≠ name := by simpa using hfind
          rw [readMembers_of_unknown hnext hkey hcolon hblanks htext htail hsound hviews hfind]
          refine (ih hsounds hdepths hplains hnodups hnones).imp ?_ ?_
          · rintro ⟨filled, hfilled, henters⟩
            refine ⟨filled, hfilled, fun field hfield => ?_⟩
            rw [hlookup _ (hne field hfield)]
            exact henters field hfield
          · rintro ⟨hfail, field, hfield, value, hvalue, hview⟩
            refine ⟨hfail, field, hfield, value, ?_, hview⟩
            rw [hlookup _ (hne field hfield), hvalue]
      -- The member is a field: its value is entered if it is of its kind.
      | some field =>
          obtain rfl : field.name = name := by simpa using List.find?_some hfind
          have hmem : field ∈ views := List.mem_of_find?_eq_some hfind
          rw [readMembers_of_known hnext hkey hcolon hblanks htext htail hsound hdepth
            (hplain field hmem tree List.mem_cons_self) hviews hfind
            (hnone field hmem List.mem_cons_self)]
          cases hview : field.view tree with
          | none => exact .inr ⟨rfl, field, hmem, tree, List.lookup_cons_self, hview⟩
          | some value =>
              have hne : ∀ other : FieldView σ, other.name ∈ members.map Prod.fst →
                  other.name ≠ field.name := fun other hlater hsame => hnew (hsame ▸ hlater)
              have hnones : ∀ other ∈ views, other.name ∈ members.map Prod.fst →
                  other.get (field.enter value draft) = none := fun other hother hlater => by
                rw [hviews.get_enter_of_ne hmem hother (hne other hlater),
                  hnones other hother hlater]
              refine (ih hsounds hdepths hplains hnodups hnones).imp ?_ ?_
              · rintro ⟨filled, hfilled, henters⟩
                exact ⟨filled, hfilled, fun other hother =>
                  hviews.enters_cons hmem hview hnew hother (henters other hother)⟩
              · rintro ⟨hfail, other, hother, later, hlater, hviewed⟩
                refine ⟨hfail, other, hother, later, ?_, hviewed⟩
                rw [hlookup, hlater]
                refine hne other (by_contra fun hmissing => ?_)
                rw [lookup_eq_none_of_not_mem hmissing] at hlater
                cases hlater

/-- The draft of a record is completed behind its members. -/
theorem outcome_decodeObject :
    outcome (record.decodeObject count rest) =
      (record.readMembers count true record.blank rest).toOption.bind fun taken =>
        (record.complete taken.1).toOption.map (·, taken.2) := by
  unfold decodeObject
  split
  · rename_i fault hfault
    conv_rhs => rw [hfault]
    rfl
  · rename_i draft behind hdraft
    conv_rhs => rw [hdraft]
    split
    · rename_i name hname
      simp [hname, Except.toOption]
    · rename_i value hvalue
      simp [hvalue, Except.toOption]

/-- Behind an opening brace, the members of a record are read. -/
theorem outcome_decode_object (hbegins : skipBlank bytes = 0x7b :: rest) :
    outcome (record.decode (count + 1) bytes) =
      (record.readMembers count true record.blank rest).toOption.bind fun taken =>
        (record.complete taken.1).toOption.map (·, taken.2) := by
  have hdecode : outcome (record.decodeObject count rest) = _ := outcome_decodeObject
  rw [← hdecode]
  unfold decode
  dsimp only
  split
  · simp_all
  · rename_i more hsome
    obtain ⟨rfl, rfl⟩ := List.cons.inj (hbegins.symm.trans hsome)
    rw [if_pos (by decide), if_neg (by decide)]
    cases record.decodeObject count rest <;> rfl

/-- A scalar is refused. -/
theorem outcome_decode_other {byte : UInt8} (hbegins : skipBlank bytes = byte :: rest)
    (hlist : byte ≠ 0x5b) (hobject : byte ≠ 0x7b) : outcome (record.decode count bytes) = none := by
  unfold decode
  dsimp only
  split
  · rfl
  · rename_i hsome
    obtain ⟨rfl, rfl⟩ := List.cons.inj (hbegins.symm.trans hsome)
    rw [if_neg (by simp [hlist, hobject])]
    rfl

/-- **A record is read** that is written as an object, if its view is right about drafts: it gives
nothing if a field that is there is not of its kind, and otherwise gives the record of the draft
that has the fields. Some field must be there. -/
theorem HasViews.reads_decode (hviews : record.HasViews views) {view : Tree → Option α}
    (hblank : (record.complete record.blank).toOption = none)
    (hnone : ∀ tree, ∀ field ∈ views,
      Tree.optional field.view (tree.field? field.name) = none → view tree = none)
    (hsome : ∀ tree draft, (∀ field ∈ views,
        Tree.optional field.view (tree.field? field.name) = some (field.get draft)) →
      view tree = (record.complete draft).toOption) :
    Reads record.decode view (.record (views.map fun field => (field.name, field.shape))) := by
  intro tree budget hsound hdepth hplain blanks text rest hblanks htext hrest
  obtain ⟨hlist, hfields⟩ := Shape.plain_record_iff.1 hplain
  by_cases hobject : ∃ members, tree = .object members
  -- The draft of an object has what a lookup finds for each field, as the view wants it.
  · obtain ⟨members, rfl⟩ := hobject
    obtain ⟨inside, hbegins, hat⟩ := exists_membersAt hblanks htext rest
    obtain ⟨count, rfl, hcount⟩ := exists_of_succ_le hdepth
    have hplains : ∀ field ∈ views, ∀ tree, (field.name, tree) ∈ members →
        field.shape.Plain tree := fun field hfield tree hmem =>
      hfields (field.name, field.shape) (List.mem_map_of_mem hfield) tree
        (lookup_eq_some_of_mem hsound.nodup hmem)
    have hread := readMembers_of_membersAt hviews hat
      (fun member hmem => hsound.of_mem_members hmem)
      (fun member hmem => Nat.le_trans (Tree.depth_le_of_mem_members hmem) hcount) hplains
      hsound.nodup fun field hfield _ => hviews.get_blank field hfield
    rw [outcome_decode_object hbegins]
    obtain ⟨filled, hfilled, henters⟩ | ⟨hfail, field, hfield, value, hvalue, hview⟩ := hread
    · rw [hfilled, Option.bind_some, hsome (.object members) filled]
      intro field hfield
      have henter := henters field hfield
      rw [Tree.field?]
      cases hvalue : members.lookup field.name with
      | none =>
          rw [hvalue, FieldView.Enters, hviews.get_blank field hfield] at henter
          rw [Tree.optional, henter]
      | some value =>
          rw [hvalue] at henter
          obtain ⟨viewed, hviewed, hget⟩ := henter
          rw [Tree.optional, hviewed, hget]
          rfl
    · rw [hfail, hnone (.object members) field hfield]
      · rfl
      · rw [Tree.field?, hvalue, Tree.optional, hview]
        rfl
  -- A scalar is refused, and has no more fields than a blank draft, which cannot be completed.
  · have hbegins := skipBlank_text hblanks htext rest
    obtain ⟨byte, more, rfl, -, -, hbracket, hbrace⟩ := Tree.exists_cons_of_isText htext
    have hne : ¬∃ elements, tree = .list elements := fun ⟨elements, hsame⟩ =>
      hlist elements hsame
    have hfield? : ∀ name, tree.field? name = none := fun name => by
      cases tree with
      | object members => exact absurd ⟨members, rfl⟩ hobject
      | null | boolean | number | string | list => rfl
    rw [outcome_decode_other hbegins (mt hbracket.1 hne) (mt hbrace.1 hobject),
      hsome tree record.blank, hblank]
    · rfl
    · intro field hfield
      rw [hfield?, Tree.optional, hviews.get_blank field hfield]

end Record

/-! ### Documents -/

/-- **A whole document is read** with the blanks around it, if its tree is. -/
theorem toOption_decodeDocument (hreads : Reads decode view shape)
    (hdocument : tree.IsDocument bytes) (hsound : tree.Sound) (hdepth : tree.depth ≤ budget)
    (hplain : shape.Plain tree) :
    (decodeDocument decode bytes).toOption = view tree := by
  cases hdocument with
  | @intro before text behind hbefore htext hbehind =>
      have hrest : Delimited behind := by
        rw [← List.append_nil behind]
        exact delimited_append hbehind delimited_nil
      have hread := hreads hsound hdepth hplain hbefore htext hrest
      rw [decodeDocument]
      cases hview : view tree with
      | none =>
          rw [hview] at hread
          obtain ⟨fault, hfault⟩ := outcome_eq_none_iff.1 hread
          rw [hfault]
          rfl
      | some value =>
          rw [hview] at hread
          obtain ⟨hshorter, hok⟩ := outcome_eq_some_iff.1 hread
          rw [hok]
          simp [bind, Except.bind, skipBlank_blanks hbehind, pure, Except.pure, Except.toOption]

end Json

end CallForest
