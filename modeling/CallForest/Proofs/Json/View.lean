import CallForest.Proofs.Json.Record
import Mathlib.Data.List.Forall2

/-! # Looking at JSON values

Scalars of a kind and fields of objects, as views of trees: a field must be there, stands for a
given value if it is absent, or may be absent or `null`.

* `Json.Tree.string?`, `Json.Tree.boolean?`, `Json.Tree.double?`: scalars of a kind.
* `Json.Tree.required`, `Json.Tree.defaulted`, `Json.Tree.nullable`: fields of objects.
* `Json.Tree.listOf_eq_some_iff`: elements of lists.
* `Json.reads_string`, `Json.reads_boolean`, `Json.reads_double`: scalars are read. -/

namespace CallForest

namespace Json

variable {α : Type} {name : String} {view : Tree → Option α}

namespace Tree

/-! ### Scalars and fields -/

/-- The text of a string. -/
def string? : Tree → Option String
  | .string value => some value
  | _ => none

/-- A truth value. -/
def boolean? : Tree → Option Bool
  | .boolean value => some value
  | _ => none

/-- The double nearest to a number. -/
def double? : Tree → Option Binary64
  | .number negative numeral => (numeral.evaluate negative).toOption.map Number.toBinary64
  | _ => none

/-- A field that must be there. -/
def required (name : String) (view : Tree → Option α) (tree : Tree) : Option α :=
  (tree.field? name).bind view

/-- A field that stands for a given value if it is absent. -/
def defaulted (name : String) (view : Tree → Option α) (default : α) (tree : Tree) : Option α :=
  match tree.field? name with
  | none => some default
  | some value => view value

/-- A field that may be absent or `null`. -/
def nullable (name : String) (view : Tree → Option α) (tree : Tree) : Option (Option α) :=
  match tree.field? name with
  | none | some .null => some none
  | some value => (view value).map some

/-- A view that also accepts `null`. -/
def orNull (view : Tree → Option α) : Tree → Option (Option α)
  | .null => some none
  | tree => (view tree).map some

/-- **Elements keep their order and their number**: a view of a list gives the values that it gives
of the elements, one for each. -/
theorem listOf_eq_some_iff {tree : Tree} {values : List α} :
    tree.listOf view = some values ↔ ∃ elements, tree = .list elements ∧
      List.Forall₂ (fun element value => view element = some value) elements values := by
  cases tree with
  | list elements =>
      simp only [listOf, list.injEq, exists_eq_left']
      induction elements generalizing values with
      | nil => simp [eq_comm]
      | cons first elements ih =>
          -- The first value is that of the first element, and the others are those of the others.
          rw [List.mapM_cons, List.forall₂_cons_left_iff]
          simp only [Option.bind_eq_bind, Option.bind_eq_some_iff, ih, Option.pure_def,
            Option.some.injEq]
          constructor
          · rintro ⟨value, hvalue, rest, hrest, rfl⟩
            exact ⟨value, rest, hvalue, hrest, rfl⟩
          · rintro ⟨value, rest, hvalue, hrest, rfl⟩
            exact ⟨value, hvalue, rest, hrest, rfl⟩
  | null | boolean | number | string | object => simp [listOf]

/-- A field that must be there is one that may be there. -/
theorem required_eq (tree : Tree) :
    tree.required name view = (optional view (tree.field? name)).join := by
  rw [required]
  cases tree.field? name with
  | none => rfl
  | some value => cases hview : view value <;> simp [optional, hview]

/-- A field with a default is one that may be there. -/
theorem defaulted_eq (default : α) (tree : Tree) :
    tree.defaulted name view default =
      (optional view (tree.field? name)).map (·.getD default) := by
  rw [defaulted]
  cases tree.field? name with
  | none => rfl
  | some value => cases hview : view value <;> simp [optional, hview]

/-- A field that may be `null` stands for `null` if it is absent. -/
theorem nullable_eq_defaulted (tree : Tree) :
    tree.nullable name view = tree.defaulted name (orNull view) none := by
  rw [nullable, defaulted]
  cases tree.field? name with
  | none => rfl
  | some value => cases value <;> rfl

/-- A field that may be `null` is one that may be there. -/
theorem nullable_eq (tree : Tree) :
    tree.nullable name view = (optional (orNull view) (tree.field? name)).map Option.join := by
  rw [nullable_eq_defaulted, defaulted_eq]
  congr 1
  funext value
  cases value <;> rfl

end Tree

/-- A scalar of a kind is read by the view that gives it. -/
theorem reads_of_scalarOf {wanted : String} {select : Scalar → Option α}
    (hview : ∀ tree : Tree, tree.scalar?.bind select = view tree) :
    Reads (scalarOf wanted select) view .any := by
  rw [← funext hview]
  exact reads_scalarOf wanted select

/-- Strings are read. -/
theorem reads_string : Reads string Tree.string? .any :=
  reads_of_scalarOf fun tree => by
    cases tree with
    | number negative numeral =>
        rw [Tree.scalar?]
        cases numeral.evaluate negative <;> rfl
    | _ => rfl

/-- Truth values are read. -/
theorem reads_boolean : Reads boolean Tree.boolean? .any :=
  reads_of_scalarOf fun tree => by
    cases tree with
    | number negative numeral =>
        rw [Tree.scalar?]
        cases numeral.evaluate negative <;> rfl
    | _ => rfl

/-- Numbers are read. -/
theorem reads_double : Reads double Tree.double? .any :=
  reads_of_scalarOf fun tree => by
    cases tree with
    | number negative numeral =>
        rw [Tree.scalar?, Tree.double?]
        cases numeral.evaluate negative <;> rfl
    | _ => rfl

/-- Strings that may be `null` are read. -/
theorem reads_optionalString : Reads optionalString (Tree.orNull Tree.string?) .any :=
  reads_of_scalarOf fun tree => by
    cases tree with
    | number negative numeral =>
        rw [Tree.scalar?]
        cases numeral.evaluate negative <;> rfl
    | _ => rfl

/-- Truth values that may be `null` are read. -/
theorem reads_optionalBoolean : Reads optionalBoolean (Tree.orNull Tree.boolean?) .any :=
  reads_of_scalarOf fun tree => by
    cases tree with
    | number negative numeral =>
        rw [Tree.scalar?]
        cases numeral.evaluate negative <;> rfl
    | _ => rfl

end Json

end CallForest
