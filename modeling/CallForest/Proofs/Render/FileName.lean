import CallForest.Proofs.FileSystem.Path
import CallForest.Render.Diagram

/-! # File names of diagrams

The file of a diagram is named for its region, with slashes of either kind replaced. Whatever the
region is called, that makes a single name, which can stand in any directory. Two regions get one
name when they differ at most in slashes and in what replaces them.

* `Diagram.isName_fileName_of_not_mem`, `Diagram.fileName_ne_dots`: the file name is a name, and
  leads nowhere else.
* `Diagram.SameChar`, `Diagram.SameStem`: characters, and regions, that a file name does not tell
  apart.
* `Diagram.path_eq_iff`: when two diagrams have one path. -/

namespace CallForest

namespace Diagram

variable {character other : Char} {directory region region' extension : String}

/-! ### Single characters -/

/-- A mark: a slash of either kind, or the low line that stands for it in a file name. -/
def IsMark (character : Char) : Prop := character = '/' ∨ character = '\\' ∨ character = '_'

/-- Two characters are **the same in a file name**: equal, or both marks. -/
def SameChar (character other : Char) : Prop :=
  character = other ∨ IsMark character ∧ IsMark other

instance : DecidablePred IsMark := fun _ => inferInstanceAs (Decidable (_ ∨ _ ∨ _))

instance (character other : Char) : Decidable (SameChar character other) :=
  inferInstanceAs (Decidable (_ ∨ _ ∧ _))

/-- All marks stand as the low line. -/
theorem stemChar_of_isMark (hmark : IsMark character) : stemChar character = '_' := by
  rcases hmark with rfl | rfl | rfl <;> decide

/-- Every other character stands for itself. -/
theorem stemChar_of_not_isMark (hmark : ¬ IsMark character) : stemChar character = character := by
  rw [stemChar, if_neg]
  intro hslash
  rw [Bool.or_eq_true, decide_eq_true_iff, decide_eq_true_iff] at hslash
  exact hmark (hslash.imp_right Or.inl)

/-- What stands for a character is no slash. -/
theorem stemChar_ne_slash (character : Char) :
    stemChar character ≠ '/' ∧ stemChar character ≠ '\\' := by
  by_cases hmark : IsMark character
  · rw [stemChar_of_isMark hmark]
    decide
  · rw [stemChar_of_not_isMark hmark]
    exact ⟨fun hslash => hmark (.inl hslash), fun hslash => hmark (.inr (.inl hslash))⟩

/-- What stands for a character is a mark when the character is one. -/
theorem isMark_stemChar_iff : IsMark (stemChar character) ↔ IsMark character := by
  by_cases hmark : IsMark character
  · rw [stemChar_of_isMark hmark]
    exact iff_of_true (by decide) hmark
  · rw [stemChar_of_not_isMark hmark]

/-- **Characters stand alike** when they are the same in a file name. -/
theorem stemChar_eq_iff : stemChar character = stemChar other ↔ SameChar character other := by
  constructor
  · intro hsame
    by_cases hmark : IsMark character
    · exact .inr ⟨hmark, isMark_stemChar_iff.1 (hsame ▸ isMark_stemChar_iff.2 hmark)⟩
    · have hother : ¬ IsMark other := fun hother =>
        hmark (isMark_stemChar_iff.1 (hsame ▸ isMark_stemChar_iff.2 hother))
      rw [stemChar_of_not_isMark hmark, stemChar_of_not_isMark hother] at hsame
      exact .inl hsame
  · rintro (rfl | ⟨hmark, hother⟩)
    · rfl
    · rw [stemChar_of_isMark hmark, stemChar_of_isMark hother]

/-! ### Names of regions -/

/-- Two regions are **the same in a file name**: their names have the same length, and at every
position characters that are the same there. -/
def SameStem (region region' : String) : Prop :=
  region.length = region'.length ∧ ∀ (position : Nat) (character other : Char),
    region.toList[position]? = some character → region'.toList[position]? = some other →
      SameChar character other

/-- The characters of a stem. -/
theorem toList_stem (region : String) : (stem region).toList = region.toList.map stemChar := by
  rw [stem, String.toList_ofList]

/-- The characters of a file name. -/
theorem toList_fileName (region extension : String) :
    (fileName region extension).toList =
      (stem region).toList ++ (".callgraph.".toList ++ extension.toList) := by
  rw [fileName, String.toList_append, String.toList_append, List.append_assoc]

/-- A stem has no slash of either kind. -/
theorem slash_not_mem_stem (region : String) :
    '/' ∉ (stem region).toList ∧ '\\' ∉ (stem region).toList := by
  rw [toList_stem, List.mem_map, List.mem_map]
  refine ⟨?_, ?_⟩ <;> rintro ⟨character, -, hslash⟩
  · exact (stemChar_ne_slash character).1 hslash
  · exact (stemChar_ne_slash character).2 hslash

/-- **Regions have one stem** when they are the same in a file name. -/
theorem stem_eq_iff : stem region = stem region' ↔ SameStem region region' := by
  rw [← String.toList_inj, toList_stem, toList_stem]
  constructor
  · intro hsame
    have hlength := congrArg List.length hsame
    rw [List.length_map, List.length_map, String.length_toList, String.length_toList] at hlength
    refine ⟨hlength, ?_⟩
    intro position character other hcharacter hother
    have hstem := congrArg (·[position]?) hsame
    simp only [List.getElem?_map, hcharacter, hother, Option.map_some] at hstem
    exact stemChar_eq_iff.1 (Option.some.inj hstem)
  · rintro ⟨hlength, hsame⟩
    rw [← String.length_toList, ← String.length_toList] at hlength
    refine List.ext_getElem (by simpa only [List.length_map]) fun position hlt hlt' => ?_
    rw [List.getElem_map, List.getElem_map, stemChar_eq_iff]
    rw [List.length_map] at hlt hlt'
    exact hsame position _ _ (List.getElem?_eq_getElem hlt) (List.getElem?_eq_getElem hlt')

instance (region region' : String) : Decidable (SameStem region region') :=
  decidable_of_iff _ stem_eq_iff

/-! ### File names -/

/-- The file name of a diagram **is a name**, when its extension has no slash. -/
theorem isName_fileName_of_not_mem (hextension : '/' ∉ extension.toList) :
    Path.IsName (fileName region extension) where
  ne_nil := by simp [toList_fileName]
  separator_not_mem := by
    rw [toList_fileName, List.mem_append, List.mem_append]
    rintro (hstem | hdots | hmem)
    · exact (slash_not_mem_stem region).1 hstem
    · revert hdots
      decide
    · exact hextension hmem

/-- The file name of a diagram is not one of the names that lead elsewhere. -/
theorem fileName_ne_dots (region extension : String) :
    fileName region extension ≠ "." ∧ fileName region extension ≠ ".." := by
  have hlength : 11 ≤ (fileName region extension).toList.length := by
    simp [fileName]
    omega
  constructor <;> (intro hname; rw [hname] at hlength; exact absurd hlength (by decide))

/-- The file name of a diagram does not begin with a slash. -/
theorem isAbsolute_fileName (region extension : String) :
    Path.isAbsolute (fileName region extension) = false := by
  rw [Path.isAbsolute, decide_eq_false_iff_not, toList_fileName, toList_stem]
  cases region.toList with
  | nil => simp [Path.separator]
  | cons first rest => simpa [Path.separator] using (stemChar_ne_slash first).1

/-- Two diagrams have one file name when their regions are the same there. -/
theorem fileName_eq_iff :
    fileName region extension = fileName region' extension ↔ SameStem region region' := by
  rw [← stem_eq_iff, ← String.toList_inj, toList_fileName, toList_fileName, List.append_left_inj,
    String.toList_inj]

/-- **Two diagrams have one path** in a directory when their regions are the same in a file name. -/
theorem path_eq_iff :
    path directory region extension = path directory region' extension ↔
      SameStem region region' := by
  rw [path, path, Path.join_right_inj, fileName_eq_iff]

end Diagram

end CallForest
