import CallForest.FileSystem.Change
import CallForest.FileSystem.Listing
import CallForest.Proofs.FileSystem.Directory
import CallForest.Proofs.FileSystem.Path
import CallForest.Proofs.Render.FileName
import CallForest.Proofs.Render.System

/-! # A file system goes by paths

In a file system that is a value, what a run is answered depends on paths alone, once it is granted
its output directory: directories are never lost, and the diagrams that are written only fill places
where a file can be.

* `FileSystem.contentAt`, `FileSystem.viewFrom`: the files of a file system.
* `FileSystem.walk_concat`, `FileSystem.resolve_join`: where the path of a name in a directory ends.
* `FileSystem.Rewrites`: nothing but files has been written.
* `FileSystem.steady_host`: a file system answers by the path. -/

namespace CallForest

/-- The file name of a diagram in one of the output formats is a name. -/
theorem Diagram.isName_fileName (region : String) (format : OutputFormat) :
    Path.IsName (fileName region format.name) := by
  refine isName_fileName_of_not_mem ?_
  cases format <;> decide

namespace FileSystem

variable {files later : FileSystem} {start location : Location} {directory name path : String}

/-! ### Files -/

/-- What the file at a location holds, if there is a file. -/
def contentAt (files : FileSystem) (location : Location) : Option Bytes :=
  match files.entry? location with
  | some (.file content _) => some content
  | _ => none

/-- The **files as they are seen from a directory**: a path leads to the file of its last name. -/
def viewFrom (directory : Location) : FileView FileSystem Location where
  content := contentAt
  file path := (Path.names path).getLast?.toList ++ directory

/-- Adding directories concerns no file. -/
theorem AddsDirectories.contentAt_eq (hadds : files.AddsDirectories later) :
    later.contentAt = files.contentAt := by
  funext location
  obtain hsame | ⟨hnone, hnew⟩ := hadds.entry?_eq location
  · rw [contentAt, contentAt, hsame]
  · rw [contentAt, contentAt, hnone, hnew]

/-- Writing a file concerns no other file. -/
theorem contentAt_put (hlocation : location ≠ []) {content : Bytes} {executable : Bool}
    {other : Location} :
    (files.put location (.file content executable)).contentAt other =
      if other = location then some content else files.contentAt other := by
  rw [contentAt, entry?_put hlocation]
  by_cases hother : other = location
  · rw [if_pos hother, if_pos hother]
  · rw [if_neg hother, if_neg hother, contentAt]

/-! ### Paths into a directory -/

/-- A walk whose names but the last one lead to a directory ends there at its last name. -/
theorem walk_concat {names : List String} (henter : names.foldlM files.enter start = .ok location)
    (hdots : name ≠ "." ∧ name ≠ "..") :
    files.walk start (names ++ [name]) =
      if nameLimit < name.utf8ByteSize then .error .nameTooLong else .ok (.name location name) := by
  induction names generalizing start with
  | nil =>
      obtain rfl : start = location := Except.ok.inj henter
      simp [walk, hdots]
  | cons next names ih =>
      rw [List.foldlM_cons] at henter
      cases hnext : files.enter start next with
      | error fault => simp [hnext, bind, Except.bind] at henter
      | ok inner =>
          rw [hnext] at henter
          -- A name with others behind it is entered: the walk has another rule for the last one.
          rw [List.cons_append, walk, hnext]
          · exact ih henter
          · simp

/-- Where the path of a name in a directory ends, given the location of the directory. -/
def endIn (location : Location) (path name : String) : Except SystemFault Target :=
  if path.toList.contains '\x00' then .error .nulInPath
  else if pathLimit ≤ path.utf8ByteSize then .error .nameTooLong
  else if nameLimit < name.utf8ByteSize then .error .nameTooLong
  else .ok (.name location name)

/-- A path of a name in a directory that does not end there ends nowhere. -/
theorem endIn_eq (location : Location) (path name : String) :
    (∃ fault, endIn location path name = .error fault) ∨
      endIn location path name = .ok (.name location name) := by
  rw [endIn]
  split_ifs
  · exact .inl ⟨_, rfl⟩
  · exact .inl ⟨_, rfl⟩
  · exact .inl ⟨_, rfl⟩
  · exact .inr rfl

/-- **Where the path of a name in a directory ends** does not depend on what is there. -/
theorem resolve_join (hname : Path.IsName name) (hdots : name ≠ "." ∧ name ≠ "..")
    (hdirectory : files.directoryAt directory = .ok location) :
    files.resolve (Path.join directory name) =
      endIn location (Path.join directory name) name := by
  have hpath : Path.join directory name ≠ "" := by
    intro hempty
    have hnames : Path.names (Path.join directory name) = _ := Path.names_join hname
    rw [hempty] at hnames
    simp [Path.names, Path.pieces] at hnames
  rw [resolve, if_neg hpath, Path.names_join hname, Path.isAbsolute_join hname,
    walk_concat hdirectory hdots, endIn]

/-- Names that led to a directory lead there as long as none is lost. -/
theorem KeepsDirectories.foldlM_enter {names : List String} (hkeeps : files.KeepsDirectories later)
    (henter : names.foldlM files.enter start = .ok location) :
    names.foldlM later.enter start = .ok location := by
  induction names generalizing start with
  | nil => exact henter
  | cons next names ih =>
      rw [List.foldlM_cons] at henter ⊢
      cases hnext : files.enter start next with
      | error fault => simp [hnext, bind, Except.bind] at henter
      | ok inner =>
          rw [hnext] at henter
          rw [hkeeps.enter hnext]
          exact ih henter

/-- A directory stays at its location as long as none is lost. -/
theorem KeepsDirectories.directoryAt (hkeeps : files.KeepsDirectories later)
    (hdirectory : files.directoryAt directory = .ok location) :
    later.directoryAt directory = .ok location := by
  rw [FileSystem.directoryAt] at hdirectory ⊢
  rw [hkeeps.working_eq]
  exact hkeeps.foldlM_enter hdirectory

/-- Nothing is written where a path ends nowhere. -/
theorem write_of_resolve_error {fault : SystemFault} (hresolve : files.resolve path = .error fault)
    (content : Bytes) : files.write path content = .error fault := by
  rw [write, modify, hresolve]
  rfl

/-- What writing does at the location where a path ends. -/
theorem write_of_resolve_name {parent : Location}
    (hresolve : files.resolve path = .ok (.name parent name)) (hopen : Path.endsOpen path = false)
    (content : Bytes) :
    files.write path content =
      match files.entry? (name :: parent) with
      | none => .ok (files.put (name :: parent) (.file content false))
      | some .directory => .error .isDirectory
      | some (.file _ executable) => .ok (files.put (name :: parent) (.file content executable))
      | some .sink => .ok files
      | some (.program _) => .error .denied := by
  rw [write, modify, hresolve]
  simp only [bind, Except.bind, hopen]
  rfl

/-! ### Nothing but files is written -/

/-- Whether a file can be written to a location: there is nothing else. -/
def IsSlot (files : FileSystem) (location : Location) : Prop :=
  ∀ entry, files.entry? location = some entry →
    ∃ content executable, entry = .file content executable

/-- A file can be written where nothing is. -/
theorem isSlot_of_none (hentry : files.entry? location = none) : files.IsSlot location := by
  intro entry hsome
  rw [hentry] at hsome
  cases hsome

/-- A file can be written where a file is. -/
theorem isSlot_of_file {content : Bytes} {executable : Bool}
    (hentry : files.entry? location = some (.file content executable)) :
    files.IsSlot location := by
  intro entry hsome
  exact ⟨content, executable, (Option.some.inj (hentry.symm.trans hsome)).symm⟩

/-- A later file system in which **nothing but files has been written**. -/
structure Rewrites (files later : FileSystem) : Prop where
  /-- The working directory is the same. -/
  working_eq : later.working = files.working
  /-- There is what was there, or a file where one can be. -/
  entry?_eq : ∀ location, later.entry? location = files.entry? location ∨
    files.IsSlot location ∧
      ∃ content executable, later.entry? location = some (.file content executable)

namespace Rewrites

/-- Nothing at all is written. -/
theorem refl (files : FileSystem) : files.Rewrites files where
  working_eq := rfl
  entry?_eq _ := .inl rfl

/-- One more file is written. -/
theorem put (hrewrites : files.Rewrites later) (hlocation : location ≠ [])
    (hslot : files.IsSlot location) (content : Bytes) (executable : Bool) :
    files.Rewrites (later.put location (.file content executable)) where
  working_eq := hrewrites.working_eq
  entry?_eq other := by
    rw [entry?_put hlocation]
    by_cases hother : other = location
    · subst hother
      exact .inr ⟨hslot, content, executable, if_pos rfl⟩
    · rw [if_neg hother]
      exact hrewrites.entry?_eq other

/-- No directory is lost where files are written. -/
theorem keepsDirectories (hrewrites : files.Rewrites later) : files.KeepsDirectories later where
  working_eq := hrewrites.working_eq
  entry?_eq location hentry := by
    obtain hsame | ⟨hslot, -⟩ := hrewrites.entry?_eq location
    · rw [hsame, hentry]
    · obtain ⟨content, executable, hfile⟩ := hslot .directory hentry
      cases hfile

end Rewrites

/-- **What writing comes to** in a directory where nothing but files has been written: it fails as
it would have failed before, or it succeeds as it would have, and what is written is there. -/
theorem Rewrites.write_join (hrewrites : files.Rewrites later) (hname : Path.IsName name)
    (hdots : name ≠ "." ∧ name ≠ "..") (hdirectory : files.directoryAt directory = .ok location)
    (hsink : files.entry? (name :: location) ≠ some .sink) (before after : Bytes) :
    (∃ fault, files.write (Path.join directory name) before = .error fault ∧
      later.write (Path.join directory name) after = .error fault) ∨
    (∃ executable, files.IsSlot (name :: location) ∧
      (files.write (Path.join directory name) before).isOk ∧
        later.write (Path.join directory name) after =
          .ok (later.put (name :: location) (.file after executable))) := by
  have hlater := hrewrites.keepsDirectories.directoryAt hdirectory
  have hopen : Path.endsOpen (Path.join directory name) = false := Path.endsOpen_join hname
  have hresolve := resolve_join hname hdots hdirectory
  have hresolve' := resolve_join hname hdots hlater
  obtain ⟨fault, hend⟩ | hend := endIn_eq location (Path.join directory name) name
  · rw [hend] at hresolve hresolve'
    exact .inl ⟨fault, write_of_resolve_error hresolve _, write_of_resolve_error hresolve' _⟩
  · rw [hend] at hresolve hresolve'
    rw [write_of_resolve_name hresolve hopen, write_of_resolve_name hresolve' hopen]
    obtain hsame | ⟨hslot, content, executable, hfile⟩ := hrewrites.entry?_eq (name :: location)
    -- What is there has not been written to, and decides alone.
    · rw [hsame]
      cases hentry : files.entry? (name :: location) with
      | none => exact .inr ⟨false, isSlot_of_none hentry, rfl, rfl⟩
      | some entry =>
          cases entry with
          | directory => exact .inl ⟨.isDirectory, rfl, rfl⟩
          | file content executable => exact .inr ⟨executable, isSlot_of_file hentry, rfl, rfl⟩
          | sink => exact absurd hentry hsink
          | program name => exact .inl ⟨.denied, rfl, rfl⟩
    -- A file has been written there, which could be written before as well.
    · rw [hfile]
      refine .inr ⟨executable, hslot, ?_, rfl⟩
      cases hentry : files.entry? (name :: location) with
      | none => rfl
      | some entry =>
          obtain ⟨old, launchable, rfl⟩ := hslot entry hentry
          rfl

/-! ### Answers -/

section

variable {config : Config} {text : String}

/-- What the host answers to a text that can be written. -/
theorem run_host_write_of_ok {path : String}
    (hwrite : files.write path (Bytes.ofText text) = .ok later) :
    (host.write path text).run files = (.ok (), later) := by
  simp only [host, StateT.run, attempt, hwrite]

/-- What the host answers to a text that cannot be written. -/
theorem run_host_write_of_error {path : String} {fault : SystemFault}
    (hwrite : files.write path (Bytes.ofText text) = .error fault) :
    (host.write path text).run files = (.error fault, files) := by
  simp only [host, StateT.run, attempt, hwrite]

/-- The answer of a file system to the request to write a file, as far as it depends on the path. -/
def answerAt (files : FileSystem) (path : String) : Except SystemFault Unit :=
  ((host.write path "").run files).1

/-- The path of a diagram leads to the file of its name. -/
theorem file_viewFrom (location : Location) (config : Config) (region : String) :
    (viewFrom location).file (config.diagramPath region) =
      Diagram.fileName region config.format.name :: location := by
  simp only [viewFrom, Config.diagramPath, Diagram.path,
    Path.names_join (Diagram.isName_fileName region config.format), List.getLast?_concat,
    Option.toList_some, List.singleton_append]

/-- A device is among the entries from the beginning: no directory that is made is one. -/
theorem mem_entries_of_sink (hadds : files.AddsDirectories later) (hlocation : location ≠ [])
    (hsink : later.entry? location = some .sink) : (location, .sink) ∈ files.entries := by
  obtain hsame | ⟨-, hnew⟩ := hadds.entry?_eq location
  · rw [hsame, entry?, if_neg hlocation] at hsink
    obtain ⟨before, after, hentries, -⟩ := List.lookup_eq_some_iff.1 hsink
    rw [hentries]
    exact List.mem_append_right _ List.mem_cons_self
  · rw [hsink] at hnew
    cases hnew

/-- In a file system that grants the output directory, it is granted in every state that runs lead
to, in which nothing but files has been written since. -/
theorem rewrites_withDirectory (hmade : (files.makeDirectories config.outputDir).2 = .ok ())
    (hlater : later = files ∨ (files.makeDirectories config.outputDir).1.Rewrites later) :
    (files.makeDirectories config.outputDir).1.Rewrites (host.withDirectory config later) ∧
      host.directoryAnswer config later = .ok () ∧
        (host.withDirectory config later).contentAt = later.contentAt := by
  obtain rfl | hrewrites := hlater
  · exact ⟨.refl _, hmade, (addsDirectories_makeDirectories _ _).contentAt_eq⟩
  · have hagain := makeDirectories_of_keepsDirectories hmade hrewrites.keepsDirectories
    have hstate : host.withDirectory config later = later := congrArg Prod.fst hagain
    have hanswer : host.directoryAnswer config later = .ok () := congrArg Prod.snd hagain
    exact ⟨hstate.symm ▸ hrewrites, hanswer, by rw [hstate]⟩

section

variable (hmade : (files.makeDirectories config.outputDir).2 = .ok ())
  (hdirectory :
    (files.makeDirectories config.outputDir).1.directoryAt config.outputDir = .ok location)
  (hsink : ∀ entry ∈ files.entries, entry.2 = .sink → entry.1.tail ≠ location)

include hdirectory hsink

/-- What writing a diagram comes to where nothing but files has been written. -/
theorem run_host_write (region : String)
    (hrewrites : (files.makeDirectories config.outputDir).1.Rewrites later) :
    (∃ fault,
      (files.makeDirectories config.outputDir).1.answerAt (config.diagramPath region) =
        .error fault ∧
      (host.write (config.diagramPath region) text).run later = (.error fault, later)) ∨
    (∃ executable,
      (files.makeDirectories config.outputDir).1.IsSlot
        (Diagram.fileName region config.format.name :: location) ∧
      (files.makeDirectories config.outputDir).1.answerAt (config.diagramPath region) = .ok () ∧
      (host.write (config.diagramPath region) text).run later =
        (.ok (), later.put (Diagram.fileName region config.format.name :: location)
          (.file (Bytes.ofText text) executable))) := by
  -- Nothing is there but what was there from the beginning, or a directory that has been made.
  have hdevice : entry? (files.makeDirectories config.outputDir).1
      (Diagram.fileName region config.format.name :: location) ≠ some .sink := fun hentry =>
    hsink _ (mem_entries_of_sink (addsDirectories_makeDirectories _ _) (List.cons_ne_nil _ _)
      hentry) rfl rfl
  obtain ⟨fault, hbefore, hafter⟩ | ⟨executable, hslot, hbefore, hafter⟩ :=
    hrewrites.write_join (Diagram.isName_fileName region config.format)
      (Diagram.fileName_ne_dots region _) hdirectory hdevice (Bytes.ofText "")
      (Bytes.ofText text)
  · exact .inl ⟨fault, congrArg Prod.fst (run_host_write_of_error hbefore),
      run_host_write_of_error hafter⟩
  · refine .inr ⟨executable, hslot, ?_, run_host_write_of_ok hafter⟩
    cases hwrite : (files.makeDirectories config.outputDir).1.write
        (Path.join config.outputDir (Diagram.fileName region config.format.name))
        (Bytes.ofText "") with
    | error fault => simp [hwrite, Except.isOk, Except.toBool] at hbefore
    | ok written => exact congrArg Prod.fst (run_host_write_of_ok hwrite)

include hmade

/-- The states that runs lead to: the one that they start from, and those in which nothing but files
has been written since the output directory was made. -/
theorem rewrites_of_reaches (hreaches : host.Reaches config files later) :
    later = files ∨ (files.makeDirectories config.outputDir).1.Rewrites later := by
  induction hreaches with
  | start => exact .inl rfl
  | directory hstate ih => exact .inr (rewrites_withDirectory hmade ih).1
  | text hstate hanswer region text ih =>
      have hrewrites := (rewrites_withDirectory hmade ih).1
      rw [Host.withText]
      obtain ⟨fault, -, hwrite⟩ | ⟨executable, hslot, -, hwrite⟩ :=
        run_host_write hdirectory hsink region hrewrites
      · rw [hwrite]
        exact .inr hrewrites
      · rw [hwrite]
        exact .inr (hrewrites.put (List.cons_ne_nil _ _) hslot _ _)

/-- What asking for the output directory and then for a diagram comes to in a state that runs lead
to: a refusal that leaves every file as it is, or one file with a new content. -/
theorem withText_of_reaches (region : String) (hreaches : host.Reaches config files later) :
    (∃ fault,
      (files.makeDirectories config.outputDir).1.answerAt (config.diagramPath region) =
        .error fault ∧
      host.writeAnswer config (config.diagramPath region) text later = .error fault ∧
      (host.withText config (config.diagramPath region) text later).contentAt = later.contentAt) ∨
    ((files.makeDirectories config.outputDir).1.answerAt (config.diagramPath region) = .ok () ∧
      host.writeAnswer config (config.diagramPath region) text later = .ok () ∧
      ∀ file, (host.withText config (config.diagramPath region) text later).contentAt file =
        if file = (viewFrom location).file (config.diagramPath region) then
          some (Bytes.ofText text)
        else later.contentAt file) := by
  obtain ⟨hrewrites, -, hcontent⟩ := rewrites_withDirectory hmade
    (rewrites_of_reaches hmade hdirectory hsink hreaches)
  obtain ⟨fault, hanswer, hwrite⟩ | ⟨executable, -, hanswer, hwrite⟩ :=
    run_host_write hdirectory hsink region hrewrites
  · refine .inl ⟨fault, hanswer, congrArg Prod.fst hwrite, ?_⟩
    rw [Host.withText, hwrite, hcontent]
  · refine .inr ⟨hanswer, congrArg Prod.fst hwrite, fun file => ?_⟩
    rw [Host.withText, hwrite, contentAt_put (List.cons_ne_nil _ _), file_viewFrom, hcontent]

/-- **A file system answers by the path**, if it grants the output directory and has no device
there. -/
theorem steady_host :
    host.Steady config (viewFrom location) files (.ok ())
      (files.makeDirectories config.outputDir).1.answerAt where
  directoryAnswer_eq hreaches := (rewrites_withDirectory hmade
    (rewrites_of_reaches hmade hdirectory hsink hreaches)).2.1
  content_withDirectory hreaches := (rewrites_withDirectory hmade
    (rewrites_of_reaches hmade hdirectory hsink hreaches)).2.2
  writeAnswer_eq region text hreaches _ := by
    obtain ⟨fault, hanswer, hwrite, -⟩ | ⟨hanswer, hwrite, -⟩ :=
      withText_of_reaches hmade hdirectory hsink region hreaches
    · rw [hanswer, hwrite]
    · rw [hanswer, hwrite]
  content_withText region text hreaches _ hwritten := by
    obtain ⟨fault, -, hwrite, -⟩ | ⟨-, -, hcontent⟩ :=
      withText_of_reaches hmade hdirectory hsink region hreaches
    · rw [hwritten] at hwrite
      cases hwrite
    · exact (hcontent _).trans (if_pos rfl)
  content_withText_of_ne region text hreaches _ hfile := by
    obtain ⟨fault, -, -, hcontent⟩ | ⟨-, -, hcontent⟩ :=
      withText_of_reaches hmade hdirectory hsink region hreaches
    · exact congrFun hcontent _
    · exact (hcontent _).trans (if_neg hfile)
  content_withText_of_error region text hreaches _ hrefused := by
    obtain ⟨fault, -, -, hcontent⟩ | ⟨-, hwrite, -⟩ :=
      withText_of_reaches hmade hdirectory hsink region hreaches
    · exact hcontent
    · rw [hrefused] at hwrite
      cases hwrite
  file_inj hfile := by
    rw [file_viewFrom, file_viewFrom] at hfile
    rw [Config.diagramPath, Config.diagramPath, Diagram.path, Diagram.path,
      (List.cons.inj hfile).1]

end

end

end FileSystem

/-- A configuration for DOT texts in the directory `out`. -/
def Config.dotInOut : Config := { Config.standard with outputDir := "out", format := .dot }

/-- An empty working directory is a system that answers by the path. -/
theorem FileSystem.steady_host_empty :
    host.Steady .dotInOut (viewFrom ["out", "work"]) empty (.ok ())
      (empty.makeDirectories "out").1.answerAt :=
  steady_host (by decide +kernel) (by decide +kernel) (by decide +kernel)

end CallForest
