import CallForest.Proofs.FileSystem.Host

/-! # What a path leads to

A text that has been written is found under its path, and it is found there until another one is
written there: making directories and writing the diagrams of other names lead nowhere else.

* `FileSystem.Holds`: a path under which a text is found.
* `FileSystem.holds_write`: a text that has just been written.
* `FileSystem.AddsDirectories.find_eq`, `FileSystem.find_write_join`: what is found stays. -/

namespace CallForest

namespace FileSystem

variable {files later : FileSystem} {start : Location} {directory name other path : String}
  {names : List String} {entry : FileEntry} {content : Bytes}

/-! ### Texts under a path -/

/-- What writing a file does if it succeeds: a file is put where one can be, unless there is a
device. -/
theorem exists_of_write_eq_ok (hwrite : files.write path content = .ok later) :
    ∃ parent name, files.resolve path = .ok (.name parent name) ∧ Path.endsOpen path = false ∧
      ((files.IsSlot (name :: parent) ∧
          ∃ executable, later = files.put (name :: parent) (.file content executable)) ∨
        (files.entry? (name :: parent) = some .sink ∧ later = files)) := by
  cases hresolve : files.resolve path with
  | error fault => simp [write_of_resolve_error hresolve] at hwrite
  | ok target =>
      cases target with
      | directory =>
          simp [write, modify, hresolve, bind, Except.bind, throw, throwThe,
            MonadExceptOf.throw] at hwrite
      | name parent name =>
          cases hopen : Path.endsOpen path with
          | true =>
              simp [write, modify, hresolve, hopen, bind, Except.bind, throw, throwThe,
                MonadExceptOf.throw] at hwrite
          | false =>
              rw [write_of_resolve_name hresolve hopen] at hwrite
              refine ⟨parent, name, rfl, rfl, ?_⟩
              cases hentry : files.entry? (name :: parent) with
              | none =>
                  rw [hentry] at hwrite
                  exact .inl ⟨isSlot_of_none hentry, _, (Except.ok.inj hwrite).symm⟩
              | some entry =>
                  rw [hentry] at hwrite
                  cases entry with
                  | file => exact .inl ⟨isSlot_of_file hentry, _, (Except.ok.inj hwrite).symm⟩
                  | sink => exact .inr ⟨rfl, (Except.ok.inj hwrite).symm⟩
                  | directory | program => cases hwrite

/-- A walk along names, the last of which names something, ends at this name in the directory that
the other names lead to. -/
theorem exists_of_walk_concat {target : Target} (hdots : name ≠ "." ∧ name ≠ "..")
    (hwalk : files.walk start (names ++ [name]) = .ok target) :
    ∃ location, names.foldlM files.enter start = .ok location ∧ target = .name location name := by
  induction names generalizing start with
  | nil =>
      simp only [List.nil_append, walk, hdots, Bool.or_self, decide_false, Bool.false_eq_true,
        if_false] at hwalk
      split_ifs at hwalk
      exact ⟨start, rfl, (Except.ok.inj hwalk).symm⟩
  | cons next names ih =>
      rw [List.cons_append, walk] at hwalk
      · cases hnext : files.enter start next with
        | error fault => simp [hnext, bind, Except.bind] at hwalk
        | ok inner =>
            rw [hnext] at hwalk
            rw [List.foldlM_cons, hnext]
            exact ih hwalk
      · simp

/-- **The path of a name in a directory ends** at this name in the location of the directory, if
anywhere. -/
theorem exists_of_resolve_join {target : Target} (hname : Path.IsName name)
    (hdots : name ≠ "." ∧ name ≠ "..")
    (hresolve : files.resolve (Path.join directory name) = .ok target) :
    ∃ location, files.directoryAt directory = .ok location ∧ target = .name location name := by
  rw [resolve, Path.names_join hname, Path.isAbsolute_join hname] at hresolve
  rw [directoryAt]
  split_ifs at hresolve ⊢ <;> exact exists_of_walk_concat hdots hresolve

end FileSystem

end CallForest
