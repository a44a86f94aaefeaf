import CallForest.Proofs.FileSystem.Presence
import CallForest.Proofs.Render.FileName
import CallForest.Proofs.Render.Plan
import Std.Data.HashMap.Lemmas

/-! # Where diagrams land, and whose files they are

Whatever a region is called, its diagram lands in the output directory itself: no name of a region
leaves it, is absolute, or goes further down. Regions that a file name does not tell apart share a
file, which belongs to the first of them. Going through a document once finds all owners, if the
regions that have claimed their paths so far are kept in a map.

* `Path.follow`: a path that is followed from a directory.
* `Diagram.LandsIn`: what it is for a diagram to land in a directory.
* `Diagram.ownersFrom`, `Diagram.Claims`: one pass over the regions, and its invariant.
* `Diagram.landsIn_and_pathOwners`: where diagrams land, and the owners of their files. -/

namespace CallForest

/-- The path that comes out where a **path is followed from a directory**: an absolute one is not
followed from there. -/
def Path.follow (directory path : String) : String :=
  if Path.isAbsolute path then path else Path.join directory path

namespace Diagram

open FileSystem

variable {directory region region' extension id : String} {ids before : List String}
  {pathOf : String → String} {claimed : Std.HashMap String String}

/-! ### Landing in a directory -/

/-- The diagram of a region **lands in a directory**: its path is that of the directory, and then
one name, which begins with what stands for the region. -/
structure LandsIn (directory region extension : String) : Prop where
  /-- Following the file name from the directory does not leave it. -/
  follow_eq : Path.follow directory (fileName region extension) = path directory region extension
  /-- The path begins with the directory, from which at most a slash separates the file name. -/
  exists_path_eq : ∃ between, (between = "" ∨ between = "/") ∧
    path directory region extension = directory ++ between ++ fileName region extension
  /-- The names of the path are those of the directory, and then one. -/
  names_eq : Path.names (path directory region extension) =
    Path.names directory ++ [fileName region extension]
  /-- The path begins where the directory begins. -/
  isAbsolute_eq : Path.isAbsolute (path directory region extension) = Path.isAbsolute directory
  /-- There is no slash in the file name. -/
  slash_not_mem : '/' ∉ (fileName region extension).toList
  /-- The file name is a stem and the extension. What stands for the region in the stem has no slash
  of either kind. -/
  exists_fileName_eq : ∃ stem, fileName region extension = stem ++ ".callgraph." ++ extension ∧
    stem.length = region.length ∧ '/' ∉ stem.toList ∧ '\\' ∉ stem.toList
  /-- The file name does not lead elsewhere. -/
  ne_dots : fileName region extension ≠ "." ∧ fileName region extension ≠ ".."
  /-- In every file system in which the path leads anywhere, that is the file name in the location
  of the directory. -/
  resolve_eq : ∀ (files : FileSystem) (target : Target),
    files.resolve (path directory region extension) = .ok target →
      ∃ location, files.directoryAt directory = .ok location ∧
        target = .name location (fileName region extension)
  /-- Writing to the path changes nothing but what has the file name in the directory. -/
  entry?_eq : ∀ (files later : FileSystem) (content : Bytes),
    files.write (path directory region extension) content = .ok later →
      ∃ location, files.directoryAt directory = .ok location ∧
        ∀ other ≠ fileName region extension :: location, later.entry? other = files.entry? other

/-- **Every diagram lands in its directory**, if its extension has no slash. -/
theorem landsIn (hextension : '/' ∉ extension.toList) : LandsIn directory region extension := by
  have hname : Path.IsName (fileName region extension) := isName_fileName_of_not_mem hextension
  have hdots := fileName_ne_dots region extension
  constructor
  case follow_eq => simp [Path.follow, isAbsolute_fileName, path]
  case exists_path_eq =>
    rw [path, Path.join]
    split_ifs
    · exact ⟨"", .inl rfl, by simp⟩
    · exact ⟨"/", .inr rfl, rfl⟩
  case names_eq => exact Path.names_join hname
  case isAbsolute_eq => exact Path.isAbsolute_join hname
  case slash_not_mem => exact hname.separator_not_mem
  case exists_fileName_eq =>
    refine ⟨stem region, rfl, ?_, slash_not_mem_stem region⟩
    rw [← String.length_toList, toList_stem, List.length_map, String.length_toList]
  case ne_dots => exact hdots
  case resolve_eq =>
    intro files target hresolve
    exact exists_of_resolve_join hname hdots hresolve
  case entry?_eq =>
    intro files later content hwrite
    obtain ⟨parent, name, hresolve, -, hchange⟩ := exists_of_write_eq_ok hwrite
    obtain ⟨location, hlocation, htarget⟩ := exists_of_resolve_join hname hdots hresolve
    obtain ⟨rfl, rfl⟩ := Target.name.inj htarget
    refine ⟨parent, hlocation, fun other hother => ?_⟩
    obtain ⟨-, executable, rfl⟩ | ⟨-, rfl⟩ := hchange
    · rw [entry?_put (List.cons_ne_nil _ _), if_neg hother]
    · rfl

/-- The names of two paths are the same when the regions are the same in a file name. -/
theorem names_path_eq_iff (hextension : '/' ∉ extension.toList) :
    Path.names (path directory region extension) = Path.names (path directory region' extension) ↔
      SameStem region region' := by
  rw [(landsIn hextension).names_eq, (landsIn hextension).names_eq, List.append_right_inj,
    List.singleton_inj, fileName_eq_iff]

/-! ### Claims -/

/-- Goes through regions, of which the first one that goes to a path claims it. For every region
that finds its path claimed, the result is the region that has claimed it, if that is another. -/
def ownersFrom (pathOf : String → String) (claimed : Std.HashMap String String) :
    List String → List (Option String)
  | [] => []
  | id :: ids =>
    match claimed[pathOf id]? with
    | some owner => (if owner = id then none else some owner) :: ownersFrom pathOf claimed ids
    | none => none :: ownersFrom pathOf (claimed.insert (pathOf id) id) ids

/-- The claims that some regions leave: **every path is claimed by the first of them** that goes
there. -/
def Claims (pathOf : String → String) (claimed : Std.HashMap String String)
    (before : List String) : Prop :=
  ∀ path, claimed[path]? = before.find? (pathOf · = path)

/-- No region claims no path. -/
theorem claims_nil : Claims pathOf ∅ [] := by
  intro path
  simp

/-- A region whose path is claimed changes no claim. -/
theorem Claims.concat (hclaims : Claims pathOf claimed before)
    (hclaimed : (claimed[pathOf id]?).isSome) : Claims pathOf claimed (before ++ [id]) := by
  intro path
  rw [hclaims path, List.find?_append]
  by_cases hpath : pathOf id = path
  · rw [hclaims, hpath] at hclaimed
    rw [Option.or_of_isSome hclaimed]
  · simp [hpath]

/-- A region whose path is not claimed claims it. -/
theorem Claims.insert (hclaims : Claims pathOf claimed before)
    (hclaimed : claimed[pathOf id]? = none) :
    Claims pathOf (claimed.insert (pathOf id) id) (before ++ [id]) := by
  intro path
  rw [Std.HashMap.getElem?_insert, List.find?_append]
  by_cases hpath : pathOf id = path
  · rw [hclaims, hpath] at hclaimed
    simp [hpath, hclaimed]
  · simp [hpath, hclaims path]

/-- **What the pass finds**: for every region the first one on its path, unless it is the same. -/
theorem ownersFrom_eq (hclaims : Claims pathOf claimed before) :
    ownersFrom pathOf claimed ids =
      ids.map fun id => ((before ++ ids).find? (pathOf · = pathOf id)).filter (· ≠ id) := by
  induction ids generalizing claimed before with
  | nil => rfl
  | cons id ids ih =>
      have hsplit : before ++ id :: ids = before ++ [id] ++ ids := by simp
      rw [ownersFrom, List.map_cons]
      cases hclaimed : claimed[pathOf id]? with
      | some owner =>
          have hfirst : (before ++ id :: ids).find? (pathOf · = pathOf id) = some owner := by
            rw [List.find?_append, ← hclaims, hclaimed, Option.some_or]
          rw [hfirst, hsplit, ← ih (hclaims.concat (by simp [hclaimed]))]
          by_cases howner : owner = id <;> simp [howner, Option.filter_some]
      | none =>
          have hfirst : (before ++ id :: ids).find? (pathOf · = pathOf id) = some id := by
            rw [List.find?_append, ← hclaims, hclaimed, Option.none_or]
            simp
          rw [hfirst, hsplit, ← ih (hclaims.insert hclaimed)]
          simp [Option.filter_some]

/-! ### Owners -/

/-- The **owners of the files** of a document: for every region, the other one that the file of its
diagram belongs to. -/
def pathOwners (directory extension : String) (document : Document) : List (Option String) :=
  ownersFrom (path directory · extension) ∅ (document.regions.map (·.id))

/-- The owners, region by region. -/
theorem pathOwners_eq (directory extension : String) (document : Document) :
    pathOwners directory extension document = document.regions.map fun region =>
      ((document.regions.find? fun other =>
        path directory other.id extension = path directory region.id extension).map
          (·.id)).filter (· ≠ region.id) := by
  rw [pathOwners, ownersFrom_eq claims_nil, List.map_map, List.nil_append]
  refine List.map_congr_left fun region _ => ?_
  rw [Function.comp_apply, List.find?_map]
  rfl

/-- **The owner of a region's file** is the first region that is the same in a file name, unless it
has the same name. -/
theorem getElem?_pathOwners {document : Document} {position : Nat} {one : Region}
    (hregion : document.regions[position]? = some one) :
    ∃ first, document.regions.find? (fun other => SameStem other.id one.id) = some first ∧
      (pathOwners directory extension document)[position]? =
        some (if first.id = one.id then none else some first.id) := by
  have hfound : (document.regions.find? fun other => SameStem other.id one.id).isSome :=
    List.find?_isSome.2 ⟨one, List.mem_of_getElem? hregion, by simpa using stem_eq_iff.1 rfl⟩
  obtain ⟨first, hfirst⟩ := Option.isSome_iff_exists.1 hfound
  refine ⟨first, hfirst, ?_⟩
  rw [pathOwners_eq, List.getElem?_map, hregion, Option.map_some]
  simp only [path_eq_iff, hfirst, Option.map_some]
  by_cases hsame : first.id = one.id <;> simp [hsame]

/-- The plans of a document go by these owners. -/
theorem pathOwners_eq_map_owner? (config : Config) (document : Document) :
    pathOwners config.outputDir config.format.name document =
      document.regions.map fun region => document.owner? config region.id := by
  rw [pathOwners_eq]
  refine List.map_congr_left fun region _ => ?_
  rw [Document.owner?, Document.lookup_targets]
  rfl

/-! ### Where diagrams land, and whose files they are -/

/-- **Where diagrams land, and whose files they are.** With an extension that has no slash, the
diagram of every region, whatever it is called, lands in the directory. Two regions have one path,
as a text as well as name by name, when they have the same length and agree at every position up to
the marks. A region finds another owner of its file when the first region of the document that
agrees with it in this way has another name; and the plans of a document go by these owners. -/
theorem landsIn_and_pathOwners (directory extension : String)
    (hextension : '/' ∉ extension.toList) :
    (∀ region, LandsIn directory region extension) ∧
    (∀ region region',
      (path directory region extension = path directory region' extension ↔
        SameStem region region') ∧
      (Path.names (path directory region extension) =
          Path.names (path directory region' extension) ↔ SameStem region region')) ∧
    (∀ (document : Document) (position : ℕ) (one : Region),
      document.regions[position]? = some one →
        ∃ first, document.regions.find? (fun other => SameStem other.id one.id) = some first ∧
          (pathOwners directory extension document)[position]? =
            some (if first.id = one.id then none else some first.id)) ∧
    ∀ (config : Config) (document : Document),
      pathOwners config.outputDir config.format.name document =
        document.regions.map fun region => document.owner? config region.id :=
  ⟨fun _ => landsIn hextension, fun _ _ => ⟨path_eq_iff, names_path_eq_iff hextension⟩,
    fun _ _ _ => getElem?_pathOwners, pathOwners_eq_map_owner?⟩

/-- A document of three regions, of which the last two go to one file. -/
def slashed : Document where
  crateName := "lib"
  elapsed := ⟨false, 0⟩
  regions := ["/../etc", "a/b", "a_b"].map fun id => ⟨id, none, none, none, [], []⟩

/-- An absolute region stays in the directory, and one that differs from another in a slash finds
that the file belongs to it. -/
theorem landsIn_and_pathOwners_slashed :
    '/' ∉ "svg".toList ∧ LandsIn "out" "/../etc" "svg" ∧
      path "out" "/../etc" "svg" = "out/_.._etc.callgraph.svg" ∧
      path "out" "a/b" "svg" = path "out" "a_b" "svg" ∧
      path "out" "a/b" "svg" ≠ path "out" "/../etc" "svg" ∧
      (pathOwners "out" "svg" slashed)[2]? = some (some "a/b") := by
  have hsvg : '/' ∉ "svg".toList := by decide
  obtain ⟨hlands, hpaths, howners, -⟩ := landsIn_and_pathOwners "out" "svg" hsvg
  refine ⟨hsvg, hlands _, by decide +kernel, (hpaths _ _).1.2 (by decide +kernel),
    fun hsame => absurd ((hpaths _ _).1.1 hsame) (by decide +kernel), ?_⟩
  obtain ⟨first, hfirst, howner⟩ := howners slashed 2 ⟨"a_b", none, none, none, [], []⟩ rfl
  have hslash : slashed.regions.find? (fun other => SameStem other.id "a_b") =
      some ⟨"a/b", none, none, none, [], []⟩ := rfl
  obtain rfl := Option.some.inj (hfirst.symm.trans hslash)
  simpa using howner

end Diagram

end CallForest
