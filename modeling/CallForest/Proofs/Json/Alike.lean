import CallForest.Proofs.Json.View

/-! # Values that differ where nobody looks

Neither the order of keys matters nor keys that nobody asks for. Where a record is wanted, its
fields are looked up, and nothing else is looked at; where a value is kept, it is the same for any
order of its keys.

* `Json.Tree.Same`, `Json.Value.Same`: values that are the same but for the order of keys.
* `Json.Shape.Alike`: trees that differ only where nobody looks.
* `Json.Respects`: views that look no further.
* `Json.Respects.listOf`, `Json.Respects.required`, `Json.Respects.defaulted`,
  `Json.Respects.nullable`: lists and fields look no further than what is in them. -/

namespace CallForest

namespace Json

variable {α β : Type} {left right : Tree} {shape : Shape} {fields : List (String × Shape)}

/-! ### The order of keys -/

/-- Two trees that are the **same but for the order of keys**. -/
inductive Tree.Same : Tree → Tree → Prop where
  /-- The trees are equal. -/
  | refl {tree : Tree} : Same tree tree
  /-- The elements are the same, one by one. -/
  | list {left right : List Tree} (hlength : left.length = right.length)
      (helements : ∀ pair ∈ left.zip right, Same pair.1 pair.2) : Same (.list left) (.list right)
  /-- The keys are the same, and so is what they stand for. -/
  | object {left right : List (String × Tree)}
      (hthere : ∀ name, (left.lookup name).isSome = (right.lookup name).isSome)
      (hmembers : ∀ name, ∀ value ∈ left.lookup name, ∀ value' ∈ right.lookup name,
        Same value value') :
      Same (.object left) (.object right)

/-- Two kept values that are the **same but for the order of keys**. -/
inductive Value.Same : Value → Value → Prop where
  /-- The values are equal. -/
  | refl {value : Value} : Same value value
  /-- The elements are the same, one by one. -/
  | list {left right : List Value} (hlength : left.length = right.length)
      (helements : ∀ pair ∈ left.zip right, Same pair.1 pair.2) : Same (.list left) (.list right)
  /-- The keys are the same, and so is what they stand for. -/
  | object {left right : List (String × Value)}
      (hthere : ∀ name, (left.lookup name).isSome = (right.lookup name).isSome)
      (hmembers : ∀ name, ∀ value ∈ left.lookup name, ∀ value' ∈ right.lookup name,
        Same value value') :
      Same (.object left) (.object right)

/-- A key of an object that is kept stands for what it stood for. -/
theorem Tree.lookup_memberValues (name : String) (members : List (String × Tree)) :
    (memberValues members).lookup name = (members.lookup name).map toValue := by
  induction members with
  | nil => rfl
  | cons member members ih =>
      obtain ⟨key, tree⟩ := member
      rw [memberValues, List.lookup_cons, List.lookup_cons, ih]
      cases name == key <;> rfl

/-- **Values that are the same are kept as the same value**, by induction over what makes them the
same. -/
theorem Tree.Same.toValue (hsame : left.Same right) : left.toValue.Same right.toValue := by
  induction hsame with
  | refl => exact .refl
  | list hlength _ ih =>
      rw [Tree.toValue, Tree.toValue, elementValues_eq, elementValues_eq]
      refine .list (by simpa using hlength) ?_
      rw [List.zip_map]
      intro pair hpair
      obtain ⟨trees, htrees, rfl⟩ := List.mem_map.1 hpair
      exact ih trees htrees
  -- A key stands for a kept value where it stood for a tree.
  | object hthere _ ih =>
      rw [Tree.toValue, Tree.toValue]
      refine .object (fun name => ?_) (fun name value hvalue value' hvalue' => ?_)
      · rw [lookup_memberValues, lookup_memberValues, Option.isSome_map, Option.isSome_map,
          hthere]
      · rw [lookup_memberValues] at hvalue hvalue'
        obtain ⟨tree, htree, rfl⟩ := Option.map_eq_some_iff.1 hvalue
        obtain ⟨tree', htree', rfl⟩ := Option.map_eq_some_iff.1 hvalue'
        exact ih name tree htree tree' htree'

/-! ### Keys that nobody asks for -/

/-- Two trees that are **alike** as far as a shape is concerned: the fields of records are alike,
and everything else is the same. -/
inductive Shape.Alike : Shape → Tree → Tree → Prop where
  /-- The trees are the same. -/
  | same {shape : Shape} {left right : Tree} (hsame : left.Same right) : Alike shape left right
  /-- The elements are alike, one by one. -/
  | list {shape : Shape} {left right : List Tree} (hlength : left.length = right.length)
      (helements : ∀ pair ∈ left.zip right, Alike shape pair.1 pair.2) :
      Alike (.list shape) (.list left) (.list right)
  /-- The fields are alike, if they are there. -/
  | record {fields : List (String × Shape)} {left right : List (String × Tree)}
      (hthere : ∀ field ∈ fields, (left.lookup field.1).isSome = (right.lookup field.1).isSome)
      (hfields : ∀ field ∈ fields, ∀ value ∈ left.lookup field.1, ∀ value' ∈ right.lookup field.1,
        Alike field.2 value value') :
      Alike (.record fields) (.object left) (.object right)

/-- Two things that may be missing are related if both are there and are, or neither is. -/
theorem rel_of_isSome_eq {related : α → β → Prop} {value : Option α} {value' : Option β}
    (hthere : value.isSome = value'.isSome)
    (hrelated : ∀ found ∈ value, ∀ found' ∈ value', related found found') :
    Option.Rel related value value' := by
  cases value with
  | none =>
      obtain rfl : value' = none := by simpa using hthere.symm
      exact .none
  | some found =>
      obtain ⟨found', rfl⟩ := Option.isSome_iff_exists.1 hthere.symm
      exact .some (hrelated found rfl found' rfl)

/-- **A field of a record is alike**, if it is there. -/
theorem Shape.Alike.rel_field? {field : String × Shape}
    (halike : Shape.Alike (.record fields) left right) (hmem : field ∈ fields) :
    Option.Rel field.2.Alike (left.field? field.1) (right.field? field.1) := by
  cases halike with
  | same hsame =>
      cases hsame with
      | refl =>
          refine rel_of_isSome_eq rfl fun value hvalue value' hvalue' => ?_
          obtain rfl := Option.mem_unique hvalue hvalue'
          exact .same .refl
      | list => exact .none
      -- All keys are alike here, and the field is one of them.
      | object hthere hmembers =>
          exact rel_of_isSome_eq (hthere field.1) fun value hvalue value' hvalue' =>
            .same (hmembers field.1 value hvalue value' hvalue')
  | record hthere hfields => exact rel_of_isSome_eq (hthere field hmem) (hfields field hmem)

/-- **Elements are alike**, one by one, if there is a list. -/
theorem Shape.Alike.forall₂_elements (halike : Shape.Alike (.list shape) left right) :
    (∃ elements elements', left = .list elements ∧ right = .list elements' ∧
        List.Forall₂ shape.Alike elements elements') ∨
      (∀ elements, left ≠ .list elements) ∧ ∀ elements, right ≠ .list elements := by
  cases halike with
  | same hsame =>
      cases hsame with
      | refl =>
          cases left with
          | list elements =>
              exact .inl ⟨elements, elements, rfl, rfl, List.forall₂_same.2 fun _ _ => .same .refl⟩
          | null | boolean | number | string | object => simp
      | list hlength helements =>
          exact .inl ⟨_, _, rfl, rfl,
            List.forall₂_iff_zip.2 ⟨hlength, fun hpair => .same (helements _ hpair)⟩⟩
      | object => simp
  | list hlength helements =>
      exact .inl ⟨_, _, rfl, rfl,
        List.forall₂_iff_zip.2 ⟨hlength, fun hpair => helements _ hpair⟩⟩

/-! ### Views -/

/-- A view that **looks no further** than a shape: it gives the same of alike trees, or gives
nothing of either. -/
def Respects (same : α → α → Prop) (view : Tree → Option α) (shape : Shape) : Prop :=
  ∀ ⦃left right : Tree⦄, shape.Alike left right → Option.Rel same (view left) (view right)

variable {same : α → α → Prop} {view : Tree → Option α}

/-- What comes next looks no further if it depends only on what came before. -/
theorem rel_bind {related : α → α → Prop} {related' : β → β → Prop} {value value' : Option α}
    {next next' : α → Option β} (hvalue : Option.Rel related value value')
    (hnext : ∀ found found', related found found' →
      Option.Rel related' (next found) (next' found')) :
    Option.Rel related' (value >>= next) (value' >>= next') := by
  cases hvalue with
  | none => exact .none
  | some hfound => exact hnext _ _ hfound

/-- A view of scalars looks no further than the whole tree: the order of keys does not matter, as
lists and objects are no scalars. -/
theorem respects_scalar (hlist : ∀ elements, view (.list elements) = none)
    (hobject : ∀ members, view (.object members) = none) : Respects Eq view .any := by
  intro left right halike
  cases halike with
  | same hsame =>
      cases hsame with
      | refl => cases view left with
        | none => exact .none
        | some value => exact .some rfl
      | list => rw [hlist, hlist]; exact .none
      | object => rw [hobject, hobject]; exact .none

/-- Kept values look no further than the whole tree. -/
theorem respects_toValue : Respects Value.Same (some ·.toValue) .any := by
  intro left right halike
  cases halike with
  | same hsame => exact .some hsame.toValue

/-- What is related one by one is related as a whole, if all of it is there. -/
theorem rel_mapM {elements elements' : List Tree}
    (helements : List.Forall₂ (fun tree tree' => Option.Rel same (view tree) (view tree'))
      elements elements') :
    Option.Rel (List.Forall₂ same) (elements.mapM view) (elements'.mapM view) := by
  induction helements with
  | nil => exact .some .nil
  | cons hfirst _ ih =>
      rw [List.mapM_cons, List.mapM_cons]
      exact rel_bind hfirst fun _ _ hvalue => rel_bind ih fun _ _ hvalues =>
        .some (.cons hvalue hvalues)

/-- Anything but a list has no elements. -/
theorem Tree.listOf_of_ne {tree : Tree} (hne : ∀ elements, tree ≠ .list elements) :
    tree.listOf view = none := by
  cases tree with
  | list elements => exact absurd rfl (hne elements)
  | null | boolean | number | string | object => rfl

/-- **Lists look no further** than their elements. -/
theorem Respects.listOf (hrespects : Respects same view shape) :
    Respects (List.Forall₂ same) (Tree.listOf view) (.list shape) := by
  intro left right halike
  obtain ⟨elements, elements', rfl, rfl, helements⟩ | ⟨hleft, hright⟩ := halike.forall₂_elements
  · exact rel_mapM (helements.imp fun _ _ hfirst => hrespects hfirst)
  · rw [Tree.listOf_of_ne hleft, Tree.listOf_of_ne hright]
    exact .none

/-- Lists of elements that are equal are equal. -/
theorem Respects.listOf_eq (hrespects : Respects Eq view shape) :
    Respects Eq (Tree.listOf view) (.list shape) := by
  have hlist := hrespects.listOf
  rwa [List.forall₂_eq_eq_eq] at hlist

/-- **A field that must be there** looks no further than its value. -/
theorem Respects.required (name : String) (hrespects : Respects same view shape)
    (halike : Shape.Alike (.record fields) left right) (hmem : (name, shape) ∈ fields) :
    Option.Rel same (left.required name view) (right.required name view) :=
  rel_bind (halike.rel_field? hmem) fun _ _ hvalue => hrespects hvalue

/-- **A field with a default** looks no further than its value. -/
theorem Respects.defaulted (name : String) {default : α} (hdefault : same default default)
    (hrespects : Respects same view shape) (halike : Shape.Alike (.record fields) left right)
    (hmem : (name, shape) ∈ fields) :
    Option.Rel same (left.defaulted name view default) (right.defaulted name view default) := by
  have hfield : Option.Rel shape.Alike (left.field? name) (right.field? name) :=
    halike.rel_field? hmem
  rw [Tree.defaulted, Tree.defaulted]
  generalize left.field? name = value, right.field? name = value' at hfield
  cases hfield with
  | none => exact .some hdefault
  | some hvalue => exact hrespects hvalue

/-- **A field that may be `null`** looks no further than its value. -/
theorem Respects.nullable (name : String) (hrespects : Respects Eq (Tree.orNull view) shape)
    (halike : Shape.Alike (.record fields) left right) (hmem : (name, shape) ∈ fields) :
    Option.Rel Eq (left.nullable name view) (right.nullable name view) := by
  rw [Tree.nullable_eq_defaulted, Tree.nullable_eq_defaulted]
  exact hrespects.defaulted name rfl halike hmem

end Json

end CallForest
