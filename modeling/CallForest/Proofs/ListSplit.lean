import Mathlib.Data.List.Basic

/-! # Splitting a list at its first mark

A list splits in one way only into a front without marks, a mark, and the rest. A lookup splits a
list at the key it looks for.

* `append_cons_inj_of_forall`: the first mark splits a list.
* `lookup_eq_some_of_mem`, `lookup_eq_none_of_not_mem`: what a lookup finds.
* `findSome?_eq_some_of_mem`, `findSome?_eq_none_of_notMem`: what is found by a field that only one
  key has. -/

namespace CallForest

variable {α : Type} {p : α → Prop} {front front' back back' : List α} {mark mark' : α}

/-- **The first mark splits a list**: elements that satisfy `p`, one that does not, and the rest are
found in the list they make. -/
theorem append_cons_inj_of_forall (hfront : ∀ element ∈ front, p element) (hmark : ¬ p mark)
    (hfront' : ∀ element ∈ front', p element) (hmark' : ¬ p mark')
    (hsame : front ++ mark :: back = front' ++ mark' :: back') :
    front = front' ∧ mark = mark' ∧ back = back' := by
  induction front generalizing front' with
  | nil =>
      cases front' with
      | nil => exact ⟨rfl, List.cons.inj hsame⟩
      | cons element front' =>
          rw [(List.cons.inj hsame).1] at hmark
          exact absurd (hfront' element List.mem_cons_self) hmark
  | cons element front ih =>
      cases front' with
      | nil =>
          rw [← (List.cons.inj hsame).1] at hmark'
          exact absurd (hfront element List.mem_cons_self) hmark'
      | cons element' front' =>
          obtain ⟨rfl, hrest⟩ := List.cons.inj hsame
          obtain ⟨rfl, hback⟩ := ih (List.forall_mem_cons.1 hfront).2
            (List.forall_mem_cons.1 hfront').2 hrest
          exact ⟨rfl, hback⟩

section

variable {κ β : Type} [BEq κ] [LawfulBEq κ] {entries : List (κ × β)} {key : κ} {value : β}

/-- Where no key is repeated, whatever stands with a key is found under it. -/
theorem lookup_eq_some_of_mem (hnodup : (entries.map Prod.fst).Nodup)
    (hmem : (key, value) ∈ entries) : entries.lookup key = some value := by
  obtain ⟨before, after, rfl⟩ := List.append_of_mem hmem
  rw [List.map_append, List.map_cons, List.nodup_append] at hnodup
  refine List.lookup_eq_some_iff.2 ⟨before, after, rfl, fun other hother => ?_⟩
  have hne := hnodup.2.2 other.1 (List.mem_map_of_mem hother) key List.mem_cons_self
  simpa using Ne.symm hne

/-- Nothing is found under a key that is not there. -/
theorem lookup_eq_none_of_not_mem (hkey : key ∉ entries.map Prod.fst) :
    entries.lookup key = none := by
  refine List.lookup_eq_none_iff.2 fun entry hentry => bne_iff_ne.2 ?_
  rintro rfl
  exact hkey (List.mem_map_of_mem hentry)

end

section

variable {κ β : Type} {elements : List α} {key : α → κ} {field : α → Option β} {name : κ}

/-- A field that only elements of some key have is not found where that key is missing. -/
theorem findSome?_eq_none_of_notMem
    (hfield : ∀ element, (field element).isSome = true → key element = name)
    (hnew : name ∉ elements.map key) : elements.findSome? field = none := by
  refine List.findSome?_eq_none_iff.2 fun element hmem => ?_
  cases hfound : field element with
  | none => rfl
  | some found =>
      have hkey := hfield element (by rw [hfound]; rfl)
      exact absurd (List.mem_map.2 ⟨element, hmem, hkey⟩) hnew

/-- Where no key is repeated, it is found with the element that has it. -/
theorem findSome?_eq_some_of_mem {element : α} {value : β}
    (hfield : ∀ element, (field element).isSome = true → key element = name)
    (hnodup : (elements.map key).Nodup) (hmem : element ∈ elements)
    (hvalue : field element = some value) : elements.findSome? field = some value := by
  obtain ⟨before, after, rfl⟩ := List.append_of_mem hmem
  rw [List.map_append, List.map_cons, List.nodup_append] at hnodup
  have hname : key element = name := hfield element (by rw [hvalue]; rfl)
  have hnew : name ∉ before.map key := fun hother =>
    hnodup.2.2 name hother (key element) List.mem_cons_self hname.symm
  rw [List.findSome?_append, findSome?_eq_none_of_notMem hfield hnew, Option.none_or,
    List.findSome?_cons, hvalue]

end

end CallForest
