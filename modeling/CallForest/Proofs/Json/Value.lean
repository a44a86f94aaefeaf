import CallForest.Proofs.Json.Enclosed

/-! # Reading kept values

A decoder is specified by a view of trees: it reads every text of a tree to its last byte and gives
what the view gives. The budget of enclosures has to be as great as the tree is deep, and what is
wanted of the tree has to leave no doubt how it is written.

* `Json.Tree.field?`, `Json.Tree.elements`: parts of trees.
* `Json.Shape`, `Json.Shape.Plain`: what is wanted, and trees without a list in place of a record.
* `Json.Reads`: a decoder is specified by a view.
* `Json.Tree.toValue`, `Json.reads_value`: the view of kept values. -/

namespace CallForest

namespace Json

/-! ### Shapes -/

/-- The value of a key, if the tree is an object that has it. -/
def Tree.field? (name : String) : Tree → Option Tree
  | .object members => members.lookup name
  | _ => none

/-- The elements of a tree, if it is a list. -/
def Tree.elements : Tree → List Tree
  | .list elements => elements
  | _ => []

/-- What is **wanted** in some place, as far as lists and records are concerned. -/
inductive Shape where
  /-- A scalar, or anything at all. -/
  | any
  /-- A list. -/
  | list (element : Shape)
  /-- A record with the given fields. -/
  | record (fields : List (String × Shape))

/-- A tree **without a list where a record is wanted**. -/
inductive Shape.Plain : Shape → Tree → Prop where
  /-- No record is wanted. -/
  | any {tree : Tree} : Plain .any tree
  /-- There is none in place of an element. -/
  | list {shape : Shape} {tree : Tree}
      (helements : ∀ element ∈ tree.elements, Plain shape element) :
      Plain (.list shape) tree
  /-- The tree itself is none, and there is none in its fields. -/
  | record {fields : List (String × Shape)} {tree : Tree}
      (hlist : ∀ elements, tree ≠ .list elements)
      (hfields : ∀ field ∈ fields, ∀ value ∈ tree.field? field.1, Plain field.2 value) :
      Plain (.record fields) tree

section

variable {shape : Shape} {fields : List (String × Shape)} {tree : Tree}

/-- Where no record is wanted, there can be no list in place of one. -/
@[simp] theorem Shape.plain_any : Shape.any.Plain tree := .any

/-- In a list, there is none in place of an element. -/
@[simp] theorem Shape.plain_list_iff :
    (Shape.list shape).Plain tree ↔ ∀ element ∈ tree.elements, shape.Plain element :=
  ⟨fun hplain => by cases hplain with | list helements => exact helements, .list⟩

/-- A record is none, and there is none in its fields. -/
@[simp] theorem Shape.plain_record_iff :
    (Shape.record fields).Plain tree ↔ (∀ elements, tree ≠ .list elements) ∧
      ∀ field ∈ fields, ∀ value ∈ tree.field? field.1, field.2.Plain value :=
  ⟨fun hplain => by cases hplain with | record hlist hfields => exact ⟨hlist, hfields⟩,
    fun hplain => .record hplain.1 hplain.2⟩

end

variable {α : Type}

/-- A decoder **reads** what a view gives of the trees of a shape. -/
def Reads (decode : Decoder α) (view : Tree → Option α) (shape : Shape) : Prop :=
  ∀ ⦃tree : Tree⦄ ⦃budget : Nat⦄, tree.Sound → tree.depth ≤ budget → shape.Plain tree →
    Takes (decode budget) view tree

/-! ### The view of kept values -/

namespace Tree

mutual

/-- A tree as a **kept value**. A number out of range, which no sound tree has, stands as zero. -/
def toValue : Tree → Value
  | .null => .null
  | .boolean value => .boolean value
  | .number negative numeral =>
    .number ((numeral.evaluate negative).toOption.getD (.integer 0))
  | .string value => .string value
  | .list elements => .list (elementValues elements)
  | .object members => .object (memberValues members)

/-- The elements of a list as kept values. -/
def elementValues : List Tree → List Value
  | [] => []
  | tree :: trees => tree.toValue :: elementValues trees

/-- The members of an object with kept values. -/
def memberValues : List (String × Tree) → List (String × Value)
  | [] => []
  | (name, tree) :: members => (name, tree.toValue) :: memberValues members

end

/-- The elements of a list are kept one by one. -/
theorem elementValues_eq (trees : List Tree) : elementValues trees = trees.map toValue := by
  induction trees with
  | nil => rfl
  | cons tree trees ih => rw [elementValues, ih, List.map_cons]

/-- The members of an object are kept one by one. -/
theorem memberValues_eq (members : List (String × Tree)) :
    memberValues members = members.map fun member => (member.1, member.2.toValue) := by
  induction members with
  | nil => rfl
  | cons member members ih => rw [memberValues, ih, List.map_cons]

/-- A scalar as a kept value. -/
theorem toValue_of_scalar? {tree : Tree} {scalar : Scalar} (hscalar : tree.scalar? = some scalar) :
    tree.toValue = scalar.toValue := by
  cases tree with
  | null | boolean | string =>
      obtain rfl := Option.some.inj hscalar
      rfl
  | number negative numeral =>
      obtain ⟨number, hnumber, rfl⟩ := Option.map_eq_some_iff.1 hscalar
      rw [toValue, hnumber]
      rfl
  | list | object => cases hscalar

end Tree

/-! ### Objects that are kept -/

variable {read : List (String × α)} {reader : Reader α} {view : Tree → Option α} {first : Bool}
  {count : Nat} {name : String} {item : α} {tree : Tree} {members : List (String × Tree)}
  {bytes colon rest : Bytes}

/-- A key that is new is entered at the end. -/
theorem setMember_of_not_mem (hname : name ∉ read.map Prod.fst) :
    setMember name item read = read ++ [(name, item)] := by
  induction read with
  | nil => rfl
  | cons member read ih =>
      rw [List.map_cons, List.mem_cons, not_or] at hname
      rw [setMember, if_neg (Ne.symm hname.1), ih hname.2, List.cons_append]

/-- A member is read. -/
theorem outcome_member {key : Bytes} (hkey : IsString name key) (hcolon : IsBlanks colon)
    (rest : Bytes) :
    outcome (member reader (key ++ (colon ++ 0x3a :: rest))) =
      (outcome (reader rest)).map (Prod.map (name, ·) id) := by
  obtain ⟨hshorter, hread⟩ := outcome_eq_some_iff.1 (outcome_key hkey (colon ++ 0x3a :: rest))
  rw [← outcome_keyed reader hcolon, member, hread]
  simp only [bind, Except.bind]
  cases keyed reader (colon ++ 0x3a :: rest) <;> rfl

/-- One member is read, and then the others. -/
theorem membersFrom_next (hnext : nextMember first bytes = .ok (true, rest)) :
    (membersFrom reader first read bytes).toOption =
      (outcome (member reader rest)).bind fun taken =>
        (membersFrom reader false (setMember taken.1.1 taken.1.2 read) taken.2).toOption := by
  rw [membersFrom]
  split
  · simp_all
  · simp_all
  · rename_i left hfound
    obtain rfl : left = rest := (Prod.mk.inj (Except.ok.inj (hfound.symm.trans hnext))).2
    dsimp only
    cases member reader left <;> rfl

/-- The members are read behind those already read, by induction over the members that are met. The
keys of both are different: this keeps every member in its place. -/
theorem membersFrom_of_membersAt (hat : MembersAt rest first members bytes)
    (htakes : ∀ member ∈ members, Takes reader view member.2)
    (hnodup : (read.map Prod.fst ++ members.map Prod.fst).Nodup) :
    (membersFrom reader first read bytes).toOption =
      (members.mapM fun member => (view member.2).map (member.1, ·)).map
        fun values => (read ++ values, rest) := by
  induction hat generalizing read with
  | close hnext =>
      rw [membersFrom]
      split <;> simp_all [Except.toOption]
  | @next first name tree members _ _ _ _ _ _ hnext hkey hcolon hblanks htext htail hrest ih =>
      obtain ⟨htake, htakes⟩ := List.forall_mem_cons.1 htakes
      -- The key is not among those already read, so that its value does not replace another one.
      have hnew : name ∉ read.map Prod.fst := fun hmem =>
        (List.nodup_append.1 hnodup).2.2 name hmem name List.mem_cons_self rfl
      rw [membersFrom_next hnext, outcome_member hkey hcolon, htake hblanks htext htail,
        List.mapM_cons]
      cases view tree with
      | none => rfl
      | some value =>
          have hnodup : ((read ++ [(name, value)]).map Prod.fst ++ members.map Prod.fst).Nodup := by
            simpa using hnodup
          simp only [Option.map_some, Option.bind_some, Prod.map, id]
          rw [setMember_of_not_mem hnew, ih htakes hnodup]
          cases members.mapM fun member => (view member.2).map (member.1, ·) with
          | none => rfl
          | some values => simp

/-- **The members of an object are read**, in their order. -/
theorem outcome_members (hat : MembersAt rest true members bytes)
    (htakes : ∀ member ∈ members, Takes reader view member.2)
    (hnodup : (members.map Prod.fst).Nodup) :
    outcome (Json.members reader bytes) =
      (members.mapM fun member => (view member.2).map (member.1, ·)).map (·, rest) := by
  have hread : (membersFrom reader true [] bytes).toOption = _ :=
    membersFrom_of_membersAt hat htakes hnodup
  simp only [List.nil_append] at hread
  rw [← hread]
  unfold Json.members
  split
  · rename_i fault hfault
    exact (congrArg Except.toOption hfault).symm
  · rename_i values left hvalues
    exact (congrArg Except.toOption hvalues).symm

/-! ### Values that are kept -/

/-- Behind an opening bracket, the elements of a list are read. -/
theorem outcome_value_list (hbegins : skipBlank bytes = 0x5b :: rest) :
    outcome (value (count + 1) bytes) =
      (outcome (elements (value count) rest)).map (Prod.map .list id) := by
  rw [value]
  split
  · simp_all
  · rename_i more hsome
    obtain ⟨rfl, rfl⟩ := List.cons.inj (hbegins.symm.trans hsome)
    rw [if_pos rfl]
    dsimp only
    cases elements (value count) rest <;> rfl

/-- Behind an opening brace, the members of an object are read. -/
theorem outcome_value_object (hbegins : skipBlank bytes = 0x7b :: rest) :
    outcome (value (count + 1) bytes) =
      (outcome (Json.members (value count) rest)).map (Prod.map .object id) := by
  rw [value]
  split
  · simp_all
  · rename_i more hsome
    obtain ⟨rfl, rfl⟩ := List.cons.inj (hbegins.symm.trans hsome)
    rw [if_neg (by decide), if_pos rfl]
    dsimp only
    cases Json.members (value count) rest <;> rfl

/-- Anything else is a scalar. -/
theorem outcome_value_scalar {byte : UInt8} (hbegins : skipBlank bytes = byte :: rest)
    (hlist : byte ≠ 0x5b) (hobject : byte ≠ 0x7b) :
    outcome (value count bytes) =
      ((scalar? (byte :: rest)).map outcome).join.map (Prod.map Scalar.toValue id) := by
  rw [value.eq_def]
  dsimp only
  split
  · simp_all
  · rename_i more hsome
    obtain ⟨rfl, rfl⟩ := List.cons.inj (hbegins.symm.trans hsome)
    rw [if_neg hlist, if_neg hobject]
    cases scalar? (byte :: rest) with
    | none => rfl
    | some result => cases result <;> rfl

/-- A budget that is as great as an enclosure is deep lets it be opened, and is as great as its
contents are deep then. -/
theorem exists_of_succ_le {depth budget : Nat} (hdepth : depth + 1 ≤ budget) :
    ∃ count, budget = count + 1 ∧ depth ≤ count :=
  ⟨budget - 1, by omega, by omega⟩

/-- A scalar is kept. -/
theorem takes_value_of_scalar? {scalar : Scalar} (hsound : tree.Sound)
    (hscalar : tree.scalar? = some scalar) :
    Takes (value count) (fun tree => some tree.toValue) tree := by
  intro blanks text rest hblanks htext hrest
  have hbegins := skipBlank_text hblanks htext rest
  have hread := outcome_scalar? htext hsound hrest
  obtain ⟨byte, more, rfl, -, -, hlist, hobject⟩ := Tree.exists_cons_of_isText htext
  rw [List.cons_append] at hbegins hread ⊢
  rw [outcome_value_scalar hbegins, hread, hscalar]
  · simp [Tree.toValue_of_scalar? hscalar]
  · intro hbyte
    obtain ⟨elements, rfl⟩ := hlist.1 hbyte
    cases hscalar
  · intro hbyte
    obtain ⟨members, rfl⟩ := hobject.1 hbyte
    cases hscalar

/-- **Any value is kept** as it is. -/
theorem reads_value : Reads value (fun tree => some tree.toValue) .any := by
  intro tree budget hsound hdepth _
  induction tree using Tree.induction generalizing budget with
  | null => exact takes_value_of_scalar? hsound rfl
  | boolean truth => exact takes_value_of_scalar? hsound rfl
  | string content => exact takes_value_of_scalar? hsound rfl
  | number negative numeral =>
      obtain ⟨number, -, hscalar⟩ := hsound.exists_number
      exact takes_value_of_scalar? hsound hscalar
  | list elements ih =>
      intro blanks text rest hblanks htext hrest
      obtain ⟨inside, hbegins, hat⟩ := exists_elementsAt hblanks htext rest
      obtain ⟨count, rfl, hcount⟩ := exists_of_succ_le hdepth
      -- The budget is one less for the elements, which are less deep by one.
      have htakes : ∀ tree ∈ elements, Takes (value count) (fun tree => some tree.toValue) tree :=
        fun tree hmem => ih tree hmem (hsound.of_mem_elements hmem)
          (Nat.le_trans (Tree.depth_le_of_mem_elements hmem) hcount) .any
      have hvalues : (elements.mapM fun tree => some tree.toValue) =
          some (elements.map Tree.toValue) := List.mapM_pure
      rw [outcome_value_list hbegins, outcome_elements hat htakes, hvalues]
      simp [Tree.toValue, Tree.elementValues_eq]
  | object members ih =>
      intro blanks text rest hblanks htext hrest
      obtain ⟨inside, hbegins, hat⟩ := exists_membersAt hblanks htext rest
      obtain ⟨count, rfl, hcount⟩ := exists_of_succ_le hdepth
      have htakes : ∀ member ∈ members,
          Takes (value count) (fun tree => some tree.toValue) member.2 := fun member hmem =>
        ih member hmem (hsound.of_mem_members hmem)
          (Nat.le_trans (Tree.depth_le_of_mem_members hmem) hcount) .any
      have hvalues : (members.mapM fun member => (some member.2.toValue).map (member.1, ·)) =
          some (members.map fun member => (member.1, member.2.toValue)) := List.mapM_pure
      rw [outcome_value_object hbegins, outcome_members hat htakes hsound.nodup, hvalues]
      simp [Tree.toValue, Tree.memberValues_eq]

end Json

end CallForest
