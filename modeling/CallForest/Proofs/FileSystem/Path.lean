import CallForest.FileSystem.Path
import Mathlib.Data.List.Basic

/-! # Names of joined paths

A name that is put behind a directory is the last name of the path that comes out, and the other
names are those of the directory.

* `Path.pieces_append_separator`: a slash separates the pieces before it from those behind it.
* `Path.IsName`: texts that can be names.
* `Path.names_join`, `Path.isAbsolute_join`, `Path.endsOpen_join`: views of a joined path. -/

namespace CallForest

namespace Path

/-- A text that **can be a name** in a directory. -/
structure IsName (name : String) : Prop where
  /-- It has a character. -/
  ne_nil : name.toList ≠ []
  /-- It has no slash. -/
  separator_not_mem : separator ∉ name.toList

variable {current front back : List Char} {directory name : String}

/-- A slash separates the pieces before it from those behind it. -/
theorem pieces_append_separator :
    pieces current (front ++ separator :: back) = pieces current front ++ pieces [] back := by
  induction front generalizing current with
  | nil => simp [pieces]
  | cons first front ih =>
      by_cases hfirst : first = separator
      · simp only [List.cons_append, pieces, if_pos hfirst, ih]
      · simp only [List.cons_append, pieces, if_neg hfirst, ih]

/-- What has no slash is a single piece. -/
theorem pieces_of_separator_not_mem (hback : separator ∉ back) :
    pieces current back = [current ++ back] := by
  induction back generalizing current with
  | nil => simp [pieces]
  | cons first back ih =>
      obtain ⟨hfirst, hback⟩ := not_or.1 (List.mem_cons.not.1 hback)
      rw [pieces, if_neg (Ne.symm hfirst), ih hback, List.append_assoc, List.singleton_append]

/-- The pieces of a name are the name. -/
theorem IsName.pieces_eq (hname : IsName name) : pieces [] name.toList = [name.toList] :=
  pieces_of_separator_not_mem hname.separator_not_mem

/-- A path that ends with a slash is another text with a slash behind it. -/
theorem exists_eq_append_separator (hopen : endsOpen directory) :
    ∃ front, directory.toList = front ++ [separator] := by
  rw [endsOpen, decide_eq_true_eq, List.getLast?_eq_some_iff] at hopen
  exact hopen

/-- **The names of a joined path** are those of the directory, and then the name. -/
theorem names_join (hname : IsName name) :
    names (join directory name) = names directory ++ [name] := by
  have hkept : (pieces [] name.toList).filter (· ≠ []) = [name.toList] := by
    rw [hname.pieces_eq, List.filter_cons_of_pos (by simpa using hname.ne_nil), List.filter_nil]
  rw [names, names, join]
  by_cases hdirectory : directory = ""
  · subst hdirectory
    rw [if_pos (by simp), String.toList_append, show "".toList = [] from rfl, List.nil_append,
      hkept]
    simp [pieces]
  · cases hopen : endsOpen directory with
    | true =>
        obtain ⟨front, hfront⟩ := exists_eq_append_separator hopen
        rw [if_pos (by simp), String.toList_append, hfront, List.append_assoc,
          List.singleton_append, pieces_append_separator, pieces_append_separator,
          List.filter_append, hkept, List.filter_append]
        simp [pieces]
    | false =>
        rw [if_neg (by simp [hdirectory]), String.toList_append, String.toList_append,
          show "/".toList = [separator] from rfl, List.append_assoc, List.singleton_append,
          pieces_append_separator, List.filter_append, hkept]
        simp

/-- Names that make one path with a directory are the same. -/
theorem join_right_inj {other : String} :
    join directory name = join directory other ↔ name = other := by
  rw [join, join]
  split <;> simp [← String.toList_inj]

/-- A joined path is absolute if the directory is. -/
theorem isAbsolute_join (hname : IsName name) :
    isAbsolute (join directory name) = isAbsolute directory := by
  obtain ⟨first, rest, hchars⟩ := List.exists_cons_of_ne_nil hname.ne_nil
  have hfirst : first ≠ separator := fun hfirst =>
    hname.separator_not_mem (by rw [hchars, hfirst]; exact List.mem_cons_self)
  rw [isAbsolute, isAbsolute, join]
  by_cases hdirectory : directory = ""
  · subst hdirectory
    simp [hchars, hfirst]
  · have hnil : directory.toList ≠ [] := by simpa using hdirectory
    obtain ⟨one, others, hone⟩ := List.exists_cons_of_ne_nil hnil
    split <;> simp [hone]

/-- A joined path ends with a name. -/
theorem endsOpen_join (hname : IsName name) : endsOpen (join directory name) = false := by
  have hlast : name.toList.getLast hname.ne_nil ≠ separator := fun hlast =>
    hname.separator_not_mem (hlast ▸ List.getLast_mem hname.ne_nil)
  have hlast? := List.getLast?_eq_some_getLast hname.ne_nil
  rw [endsOpen, join]
  split <;>
    simp only [String.toList_append, List.getLast?_append, hlast?, Option.some_or,
      Option.some.injEq, hlast, decide_false]

end Path

end CallForest
