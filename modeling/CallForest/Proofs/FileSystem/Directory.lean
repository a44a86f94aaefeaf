import CallForest.FileSystem.Basic
import Mathlib.Data.List.Basic

/-! # Directories that have been made

Making a directory with all directories that lead to it adds directories and touches nothing else.
Afterwards the directory is there, and it stays where it is as long as no directory is lost, so that
making it again changes nothing.

* `FileSystem.KeepsDirectories`: no directory is lost, and paths lead where they led.
* `FileSystem.AddsDirectories`: nothing is added but directories.
* `FileSystem.addsDirectories_makeDirectories`, `FileSystem.isDirectory_makeDirectories`: what
  making a directory does.
* `FileSystem.makeDirectories_of_keepsDirectories`: a directory that is there. -/

namespace CallForest

namespace FileSystem

variable {files later last : FileSystem} {location other : Location} {path : String}

/-! ### Entries -/

/-- An entry that has been replaced is found, and so are the others. -/
theorem lookup_replace (entry : FileEntry) (entries : List (Location × FileEntry)) :
    (replace location entry entries).lookup other =
      if other = location then some entry else entries.lookup other := by
  induction entries with
  | nil =>
      by_cases hother : other = location
      · simp [replace, hother]
      · simp [replace, hother, List.lookup_cons, beq_eq_false_iff_ne.2 hother]
  | cons first entries ih =>
      obtain ⟨one, old⟩ := first
      rw [replace]
      by_cases hone : one = location
      · subst hone
        by_cases hother : other = one
        · simp [hother]
        · simp [hother, List.lookup_cons, beq_eq_false_iff_ne.2 hother]
      · rw [if_neg hone, List.lookup_cons, List.lookup_cons, ih]
        by_cases hother : other = one
        · subst hother
          simp [hone]
        · simp [beq_eq_false_iff_ne.2 hother]

/-- What is put at a location is there, and other locations keep what they have. -/
theorem entry?_put (hlocation : location ≠ []) (entry : FileEntry) :
    entry? (files.put location entry) other =
      if other = location then some entry else files.entry? other := by
  by_cases hroot : other = []
  · simp [hroot, entry?, hlocation.symm]
  · rw [put, entry?, if_neg hroot, lookup_replace, entry?, if_neg hroot]

/-! ### No directory is lost -/

/-- A later file system in which **no directory is lost**. -/
structure KeepsDirectories (files later : FileSystem) : Prop where
  /-- The working directory is the same. -/
  working_eq : later.working = files.working
  /-- Directories are still there. -/
  entry?_eq : ∀ location, files.entry? location = some .directory →
    later.entry? location = some .directory

namespace KeepsDirectories

/-- What could be entered can be entered. -/
theorem enter {name : String} {inner : Location} (hkeeps : files.KeepsDirectories later)
    (henter : files.enter location name = .ok inner) : later.enter location name = .ok inner := by
  rw [FileSystem.enter] at henter ⊢
  split_ifs at henter ⊢ with hdot hdots hlimit
  · exact henter
  · exact henter
  · cases hentry : files.entry? (name :: location) with
    | none => simp [hentry] at henter
    | some entry =>
        cases entry with
        | directory => simpa [hentry, hkeeps.entry?_eq _ hentry] using henter
        | file content executable => simp [hentry] at henter
        | sink => simp [hentry] at henter
        | program name => simp [hentry] at henter

/-- A walk that led somewhere leads there. -/
theorem walk {names : List String} {target : Target} (hkeeps : files.KeepsDirectories later)
    (hwalk : files.walk location names = .ok target) : later.walk location names = .ok target := by
  induction names generalizing location with
  | nil => exact hwalk
  | cons next more ih =>
      -- The last name is not entered, whatever it leads to; those before it are.
      cases more with
      | nil => exact hwalk
      | cons second more =>
          rw [FileSystem.walk] at hwalk ⊢
          · cases henter : files.enter location next with
            | error fault => simp [henter, bind, Except.bind] at hwalk
            | ok inner =>
                rw [henter] at hwalk
                rw [hkeeps.enter henter]
                exact ih hwalk
          all_goals simp

/-- A path that led somewhere leads there. -/
theorem resolve {target : Target} (hkeeps : files.KeepsDirectories later)
    (hresolve : files.resolve path = .ok target) : later.resolve path = .ok target := by
  rw [FileSystem.resolve] at hresolve ⊢
  split_ifs at hresolve ⊢ with hnul hempty hlimit habsolute
  · exact hkeeps.walk hresolve
  · rw [hkeeps.working_eq]
    exact hkeeps.walk hresolve

end KeepsDirectories

/-- A path leads to a directory if it ends at one, or at a name that one has. -/
theorem isDirectory_iff :
    files.isDirectory path ↔ files.resolve path = .ok .directory ∨
      ∃ parent name, files.resolve path = .ok (.name parent name) ∧
        files.entry? (name :: parent) = some .directory := by
  rw [isDirectory, find]
  cases hresolve : files.resolve path with
  | error fault => simp [bind, Except.bind]
  | ok target =>
      cases target with
      | directory => simp [bind, Except.bind, pure, Except.pure]
      | name parent name =>
          cases hentry : files.entry? (name :: parent) with
          | none => simp [bind, Except.bind, hentry, throw, throwThe, MonadExceptOf.throw]
          | some entry =>
              cases entry <;>
                cases hopen : Path.endsOpen path <;>
                  simp [bind, Except.bind, pure, Except.pure, hentry, throw, throwThe,
                    MonadExceptOf.throw]

/-- A directory stays where it is as long as none is lost. -/
theorem KeepsDirectories.isDirectory (hkeeps : files.KeepsDirectories later)
    (hpath : files.isDirectory path) : later.isDirectory path := by
  rw [isDirectory_iff] at hpath ⊢
  obtain hresolve | ⟨parent, name, hresolve, hentry⟩ := hpath
  · exact .inl (hkeeps.resolve hresolve)
  · exact .inr ⟨parent, name, hkeeps.resolve hresolve, hkeeps.entry?_eq _ hentry⟩

/-! ### Nothing is added but directories -/

/-- A later file system to which **nothing is added but directories**. -/
structure AddsDirectories (files later : FileSystem) : Prop where
  /-- The working directory is the same. -/
  working_eq : later.working = files.working
  /-- There is what was there, or a directory where nothing was. -/
  entry?_eq : ∀ location, later.entry? location = files.entry? location ∨
    files.entry? location = none ∧ later.entry? location = some .directory

namespace AddsDirectories

/-- Nothing at all is added. -/
theorem refl (files : FileSystem) : files.AddsDirectories files where
  working_eq := rfl
  entry?_eq _ := .inl rfl

/-- Directories are added twice. -/
theorem trans (hadds : files.AddsDirectories later) (hmore : later.AddsDirectories last) :
    files.AddsDirectories last where
  working_eq := hmore.working_eq.trans hadds.working_eq
  entry?_eq location := by
    obtain hsame | ⟨hnone, hnew⟩ := hadds.entry?_eq location
    · rw [← hsame]
      exact hmore.entry?_eq location
    · obtain hsame | ⟨hnone', -⟩ := hmore.entry?_eq location
      · exact .inr ⟨hnone, hsame.trans hnew⟩
      · rw [hnew] at hnone'
        cases hnone'

/-- No directory is lost where directories are added. -/
theorem keepsDirectories (hadds : files.AddsDirectories later) : files.KeepsDirectories later where
  working_eq := hadds.working_eq
  entry?_eq location hentry := by
    obtain hsame | ⟨hnone, -⟩ := hadds.entry?_eq location
    · rw [hsame, hentry]
    · rw [hentry] at hnone
      cases hnone

end AddsDirectories

/-- A directory that is made is put where nothing was. -/
theorem exists_put_of_makeDirectory (hmake : files.makeDirectory path = .ok later) :
    ∃ parent name, files.resolve path = .ok (.name parent name) ∧
      files.entry? (name :: parent) = none ∧ later = files.put (name :: parent) .directory := by
  rw [makeDirectory] at hmake
  cases hresolve : files.resolve path with
  | error fault => simp [hresolve, bind, Except.bind] at hmake
  | ok target =>
      cases target with
      | directory =>
          simp [hresolve, bind, Except.bind, throw, throwThe, MonadExceptOf.throw] at hmake
      | name parent name =>
          cases hentry : files.entry? (name :: parent) with
          | none =>
              simp only [hresolve, hentry, bind, Except.bind, pure, Except.pure,
                Except.ok.injEq] at hmake
              exact ⟨parent, name, rfl, hentry, hmake.symm⟩
          | some entry =>
              simp [hresolve, hentry, bind, Except.bind, throw, throwThe,
                MonadExceptOf.throw] at hmake

/-- A directory that is made is added to what is there. -/
theorem addsDirectories_makeDirectory (hmake : files.makeDirectory path = .ok later) :
    files.AddsDirectories later := by
  obtain ⟨parent, name, -, hnone, rfl⟩ := exists_put_of_makeDirectory hmake
  refine ⟨rfl, fun location => ?_⟩
  rw [entry?_put (List.cons_ne_nil _ _)]
  by_cases hlocation : location = name :: parent
  · exact .inr ⟨hlocation ▸ hnone, if_pos hlocation⟩
  · exact .inl (if_neg hlocation)

/-- A directory that is made is there. -/
theorem isDirectory_makeDirectory (hmake : files.makeDirectory path = .ok later) :
    later.isDirectory path := by
  have hkeeps := (addsDirectories_makeDirectory hmake).keepsDirectories
  -- The path ends where it ended before, and that is where the directory has been put.
  obtain ⟨parent, name, hresolve, -, rfl⟩ := exists_put_of_makeDirectory hmake
  rw [isDirectory_iff]
  exact .inr ⟨parent, name, hkeeps.resolve hresolve, by
    rw [entry?_put (List.cons_ne_nil _ _), if_pos rfl]⟩

/-- A directory that is there cannot be made, because it is there. -/
theorem makeDirectory_of_isDirectory (hpath : files.isDirectory path) :
    files.makeDirectory path = .error .alreadyThere := by
  rw [makeDirectory]
  obtain hresolve | ⟨parent, name, hresolve, hentry⟩ := isDirectory_iff.1 hpath
  · rw [hresolve]
    rfl
  · simp only [hresolve, hentry, bind, Except.bind]
    rfl

/-! ### Directories with all that lead to them -/

/-- Nothing but a directory is added where one is ensured. -/
theorem addsDirectories_ensureDirectory (files : FileSystem) (path : String) :
    files.AddsDirectories (files.ensureDirectory path).1 := by
  rw [ensureDirectory]
  cases hmake : files.makeDirectory path with
  | ok later => exact addsDirectories_makeDirectory hmake
  | error fault => exact .refl files

/-- A directory that is ensured is there. -/
theorem isDirectory_ensureDirectory (hdone : (files.ensureDirectory path).2 = .ok ()) :
    (files.ensureDirectory path).1.isDirectory path := by
  rw [ensureDirectory] at hdone ⊢
  cases hmake : files.makeDirectory path with
  | ok later => exact isDirectory_makeDirectory hmake
  | error fault =>
      simp only [hmake] at hdone
      split_ifs at hdone with hpath
      exact hpath

section

variable {above : FileSystem → FileSystem × Except SystemFault Unit}

/-- Nothing but directories is added where those above a path are made first. -/
theorem addsDirectories_ensureBelow
    (habove : ∀ files : FileSystem, files.AddsDirectories (above files).1)
    (files : FileSystem) (path : String) :
    files.AddsDirectories (ensureBelow above path files).1 := by
  rw [ensureBelow]
  -- The directory alone is tried first, and again behind those above it if one of them was missing.
  split
  · exact addsDirectories_makeDirectory ‹_›
  · split
    · rename_i heq
      have hadds := habove files
      rw [heq] at hadds
      exact hadds.trans (addsDirectories_ensureDirectory _ path)
    · rename_i heq
      have hadds := habove files
      rw [heq] at hadds
      exact hadds
  · exact .refl files

/-- A directory that is made after those above it is there. -/
theorem isDirectory_ensureBelow (hdone : (ensureBelow above path files).2 = .ok ()) :
    (ensureBelow above path files).1.isDirectory path := by
  rw [ensureBelow] at hdone ⊢
  split at hdone
  · exact isDirectory_makeDirectory ‹_›
  · split at hdone
    · exact isDirectory_ensureDirectory hdone
    · cases hdone
  · split_ifs at hdone with hpath
    exact hpath

/-- Nothing changes where the directory is there. -/
theorem ensureBelow_of_isDirectory (hpath : files.isDirectory path) :
    ensureBelow above path files = (files, .ok ()) := by
  rw [ensureBelow, makeDirectory_of_isDirectory hpath]
  simp only [hpath, if_true]

end

/-- Nothing but directories is added along some names. -/
theorem addsDirectories_ensureNames (absolute : Bool) (names : List String) (files : FileSystem) :
    files.AddsDirectories (ensureNames absolute names files).1 := by
  induction names generalizing files with
  | nil => exact .refl files
  | cons last outer ih => exact addsDirectories_ensureBelow ih files _

/-- **Nothing but directories is added** where a path is made a directory. -/
theorem addsDirectories_makeDirectories (files : FileSystem) (path : String) :
    files.AddsDirectories (files.makeDirectories path).1 := by
  rw [makeDirectories]
  split_ifs
  · exact .refl files
  · exact addsDirectories_ensureBelow (addsDirectories_ensureNames _ _) files path

/-- **A path that is made a directory is one.** -/
theorem isDirectory_makeDirectories (hpath : path ≠ "")
    (hdone : (files.makeDirectories path).2 = .ok ()) :
    (files.makeDirectories path).1.isDirectory path := by
  rw [makeDirectories, if_neg hpath] at hdone ⊢
  exact isDirectory_ensureBelow hdone

/-- **Making a directory again changes nothing**, as long as no directory has been lost. -/
theorem makeDirectories_of_keepsDirectories (hdone : (files.makeDirectories path).2 = .ok ())
    (hkeeps : (files.makeDirectories path).1.KeepsDirectories later) :
    later.makeDirectories path = (later, .ok ()) := by
  by_cases hpath : path = ""
  · rw [makeDirectories, if_pos hpath]
  · have hthere := hkeeps.isDirectory (isDirectory_makeDirectories hpath hdone)
    rw [makeDirectories, if_neg hpath, ensureBelow_of_isDirectory hthere]

end FileSystem

end CallForest
