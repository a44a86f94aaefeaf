import CallForest.Proofs.Render.Order

/-! # Regions apart

What becomes of a region does not depend on the cases of another one. Two documents of one crate
that name the same regions differ at most in what a region says; then all other regions have the
same plans, and a system that goes by paths treats them alike, whatever it is asked for on behalf of
the region in which the documents differ.

* `Document.DiffersAt`: documents that differ in one region.
* `RegionReport.Alike`: reports that agree apart from the words in which the system refuses.
* `Document.Decides`: what the plan of a region and the grants of the system make of it.
* `Document.render_of_differsAt`: the reports and the files of two runs. -/

namespace CallForest

variable {σ φ : Type}

/-! ### Lists, position by position -/

/-- What relates two lists relates them at every position. -/
theorem forall₂_getElem? {α β : Type} {related : α → β → Prop} {left : List α} {right : List β}
    (hall : List.Forall₂ related left right) (position : Nat) :
    Option.Rel related left[position]? right[position]? := by
  induction hall generalizing position with
  | nil => exact .none
  | cons hfirst hrest ih =>
      cases position with
      | zero => exact .some hfirst
      | succ position => exact ih position

/-! ### Reports that agree -/

/-- Reports that **agree apart from the words of the system**, in which it says why it refuses the
output directory or a file. -/
inductive RegionReport.Alike : RegionReport → RegionReport → Prop where
  /-- There is no difference. -/
  | same (report : RegionReport) : Alike report report
  /-- The output directory is refused to both. -/
  | noDirectory (id region path : String) (fault fault' : SystemFault) :
      Alike ⟨id, .error (.createDirectory region path fault)⟩
        ⟨id, .error (.createDirectory region path fault')⟩
  /-- The file is refused to both. -/
  | notWritten (id region path : String) (fault fault' : SystemFault) :
      Alike ⟨id, .error (.write region path fault)⟩ ⟨id, .error (.write region path fault')⟩

/-- Reports that agree speak of the same diagram, if of any. -/
theorem RegionReport.Alike.toOption_eq {report report' : RegionReport}
    (halike : report.Alike report') : report.outcome.toOption = report'.outcome.toOption := by
  cases halike <;> rfl

/-- Where the reports of two runs agree but for one position, and what is reported there does not go
to a file, the runs leave the same in that file. -/
theorem FileView.written_congr_of_alike [DecidableEq φ] (view : FileView σ φ) {file : φ}
    {position : Nat} {reports reports' : List RegionReport}
    (halike : ∀ i ≠ position, Option.Rel RegionReport.Alike reports[i]? reports'[i]?)
    (hlength : reports.length = reports'.length)
    (hposition : ∀ report, reports[position]? = some report ∨ reports'[position]? = some report →
      ∀ drawing, report.outcome = .ok drawing → view.file drawing.path ≠ file) :
    view.written (RegionReport.drawings reports) file =
      view.written (RegionReport.drawings reports') file := by
  -- What a report adds to the file, which is nothing at the position that is left out.
  let added : RegionReport → Option Drawing := fun report =>
    report.outcome.toOption.filter (view.file ·.path = file)
  have hnone : ∀ report, reports[position]? = some report ∨ reports'[position]? = some report →
      added report = none := by
    intro report hreport
    refine Option.filter_eq_none_iff.2 fun drawing hdrawing => ?_
    have houtcome : report.outcome = .ok drawing := by
      cases hcase : report.outcome with
      | error error => simp [hcase, Except.toOption] at hdrawing
      | ok other => simpa [hcase, Except.toOption] using hdrawing
    simpa using hposition report hreport drawing houtcome
  have hmap : reports.map added = reports'.map added := by
    refine List.ext_getElem? fun i => ?_
    rw [List.getElem?_map, List.getElem?_map]
    by_cases hi : i = position
    · subst hi
      cases hreport : reports[i]? with
      | none =>
          rw [List.getElem?_eq_none_iff, hlength, ← List.getElem?_eq_none_iff] at hreport
          rw [hreport]
      | some report =>
          have hlt := (List.getElem?_eq_some_iff.1 hreport).1
          obtain ⟨report', hreport'⟩ : ∃ report', reports'[i]? = some report' :=
            ⟨_, List.getElem?_eq_getElem (hlength ▸ hlt)⟩
          rw [hreport', Option.map_some, Option.map_some, hnone report (.inl hreport),
            hnone report' (.inr hreport')]
    · have hrel := halike i hi
      generalize reports[i]? = left at hrel ⊢
      generalize reports'[i]? = right at hrel ⊢
      cases hrel with
      | none => rfl
      | some hsame => exact congrArg (some <| Option.filter _ ·) hsame.toOption_eq
  have hfilter : ∀ list : List RegionReport,
      (RegionReport.drawings list).filter (view.file ·.path = file) =
        (list.map added).filterMap id := fun list => by
    rw [RegionReport.drawings, List.filter_filterMap, List.filterMap_map]
    rfl
  rw [written, written, hfilter, hfilter, hmap]

namespace Document

variable {host : Host (StateM σ)} {config : Config} {document other : Document}
  {view : FileView σ φ} {start state next final : σ} {made : Bool} {written : String → Bool}
  {region region' : Region} {report report' : RegionReport} {position : Nat}

/-! ### Documents that differ in one region -/

/-- Documents of one crate that name the same regions and **differ in what one of them says**, the
one at a position. -/
structure DiffersAt (document other : Document) (position : Nat) : Prop where
  /-- They are about one crate. -/
  crateName_eq : other.crateName = document.crateName
  /-- They name the same regions, in the same order. -/
  ids_eq : other.regions.map (·.id) = document.regions.map (·.id)
  /-- All other regions are the same. -/
  getElem?_eq : ∀ i ≠ position, other.regions[i]? = document.regions[i]?

namespace DiffersAt

/-- The documents are equally long. -/
theorem length_eq (hdiffers : document.DiffersAt other position) :
    other.regions.length = document.regions.length := by
  have hlength := congrArg List.length hdiffers.ids_eq
  rwa [List.length_map, List.length_map] at hlength

/-- **A region that is the same in both documents has the same plan**: who has its file depends on
the names of the regions alone. -/
theorem plan_eq (hdiffers : document.DiffersAt other position) (region : Region) :
    other.plan config region = document.plan config region := by
  have htargets : ∀ one : Document, one.targets config =
      (one.regions.map (·.id)).map fun id => (config.diagramPath id, id) := fun one => by
    rw [targets, List.map_map]
    rfl
  rw [plan, plan, owner?, owner?, htargets, htargets, hdiffers.ids_eq, hdiffers.crateName_eq]

/-- At every position the documents name the same region. -/
theorem id_eq (hdiffers : document.DiffersAt other position)
    (hregion : document.regions[position]? = some region)
    (hregion' : other.regions[position]? = some region') : region'.id = region.id := by
  have hids := congrArg (·[position]?) hdiffers.ids_eq
  simp only [List.getElem?_map, hregion, hregion', Option.map_some] at hids
  exact Option.some.inj hids

end DiffersAt

/-! ### What decides about a region -/

/-- **What becomes of a region** by its plan and by what the system grants, where `made` tells
whether the output directory can be made and `written` whether a file can be written. -/
inductive Decides (config : Config) (document : Document) (made : Bool) (written : String → Bool)
    (region : Region) : RegionReport → Prop where
  /-- No diagram can be planned. -/
  | refused {error : RenderError} (hplan : document.plan config region = .error error) :
      Decides config document made written region ⟨region.id, .error error⟩
  /-- The output directory is refused. -/
  | noDirectory {drawing : Drawing} (hplan : document.plan config region = .ok drawing)
      (hmade : made = false) (fault : SystemFault) :
      Decides config document made written region
        ⟨region.id, .error (.createDirectory drawing.region config.outputDir fault)⟩
  /-- The file is refused. -/
  | notWritten {drawing : Drawing} (hplan : document.plan config region = .ok drawing)
      (hmade : made = true) (hwritten : written drawing.path = false) (fault : SystemFault) :
      Decides config document made written region
        ⟨region.id, .error (.write drawing.region drawing.path fault)⟩
  /-- There is a diagram. -/
  | written {drawing : Drawing} (hplan : document.plan config region = .ok drawing)
      (hmade : made = true) (hwritten : written drawing.path = true) :
      Decides config document made written region ⟨region.id, .ok drawing⟩

/-- In a system where it depends on the path whether a request succeeds, the plan and the grants
decide about a region in every state of runs. -/
theorem Renders.decides (hhost : host.PathDetermined config view start made written)
    (hregion : region ∈ document.regions) (hstate : host.Reaches config start state)
    (hrenders : document.Renders host config region state report next) :
    document.Decides config made written region report := by
  cases hrenders with
  | refused hplan => exact .refused hplan
  | noDirectory hplan hanswer => exact .noDirectory hplan (hhost.made_of_error hstate hanswer) _
  | notWritten hplan hmade hanswer =>
      have hgoes := (drawing_of_plan hregion hplan).2.1
      rw [hgoes] at hanswer
      exact .notWritten hplan (hhost.made_of_ok hstate hmade)
        (hgoes ▸ hhost.written_of_error hstate hmade hanswer) _
  | written hplan hmade hanswer =>
      have hgoes := (drawing_of_plan hregion hplan).2.1
      rw [hgoes] at hanswer
      exact .written hplan (hhost.made_of_ok hstate hmade)
        (hgoes ▸ hhost.written_of_ok hstate hmade hanswer)

/-- **Where plans are the same, reports agree.** -/
theorem Decides.alike (hreport : document.Decides config made written region report)
    (hreport' : other.Decides config made written region report')
    (hplan : other.plan config region = document.plan config region) :
    report.Alike report' := by
  -- The plan and the grants leave each report but the words of the system.
  cases hreport <;> cases hreport' <;> simp_all
  · exact .same _
  · exact .noDirectory _ _ _ _ _
  · exact .notWritten _ _ _ _ _
  · exact .same _

/-- The report on a region, at every position. -/
theorem decides_render (document : Document) (hformat : config.format = .dot)
    (hhost : host.PathDetermined config view start made written) (i : Nat) :
    Option.Rel (fun region report => region ∈ document.regions ∧
        document.Decides config made written region report)
      document.regions[i]? ((document.render host config).run start).1.regions[i]? := by
  have hall : document.RendersAll host config start document.regions start _ _ :=
    rendersAll_render hformat start
  refine forall₂_getElem? (hall.forall₂.imp fun region report => ?_) i
  rintro ⟨hregion, before, after, hstate, hrenders⟩
  exact ⟨hregion, hrenders.decides hhost hregion hstate⟩

/-- A reported diagram goes to the file of the region at its position. -/
theorem exists_region_of_drawing {drawing : Drawing} (hformat : config.format = .dot)
    (hhost : host.PathDetermined config view start made written)
    (hreport : ((document.render host config).run start).1.regions[position]? = some report)
    (houtcome : report.outcome = .ok drawing) :
    ∃ region, document.regions[position]? = some region ∧
      drawing.path = config.diagramPath region.id := by
  have hrel := document.decides_render hformat hhost position
  rw [hreport] at hrel
  generalize document.regions[position]? = found at hrel ⊢
  cases hrel with
  | @some region _ hdecides =>
      obtain ⟨hregion, hdecides⟩ := hdecides
      refine ⟨region, rfl, ?_⟩
      cases hdecides with
      | written hplan =>
          obtain rfl := Except.ok.inj houtcome
          exact (drawing_of_plan hregion hplan).2.1
      | refused | noDirectory | notWritten => cases houtcome

/-! ### Two runs -/

section

variable (hdiffers : document.DiffersAt other position) (hformat : config.format = .dot)

include hdiffers hformat

/-- Runs over documents that differ in one region report alike on all others. -/
theorem DiffersAt.alike (hhost : host.PathDetermined config view start made written) (i : Nat)
    (hi : i ≠ position) :
    Option.Rel RegionReport.Alike ((document.render host config).run start).1.regions[i]?
      ((other.render host config).run start).1.regions[i]? := by
  have hrel := document.decides_render hformat hhost i
  have hrel' := other.decides_render hformat hhost i
  rw [hdiffers.getElem?_eq i hi] at hrel'
  generalize ((document.render host config).run start).1.regions[i]? = left at hrel ⊢
  generalize ((other.render host config).run start).1.regions[i]? = right at hrel' ⊢
  generalize document.regions[i]? = found at hrel hrel'
  cases hrel with
  | none =>
      cases hrel'
      exact .none
  | @some region report hreport =>
      cases hrel' with
      | some hreport' => exact .some (hreport.2.alike hreport'.2 (hdiffers.plan_eq region))

/-- What such runs write to a file that is not that of the differing region is the same. -/
theorem DiffersAt.written_eq [DecidableEq φ]
    (hhost : host.PathDetermined config view start made written) {file : φ}
    (hfile : ∀ region, document.regions[position]? = some region →
      view.file (config.diagramPath region.id) ≠ file) :
    view.written ((document.render host config).run start).1.drawings file =
      view.written ((other.render host config).run start).1.drawings file := by
  have hlength : ∀ one : Document, ((one.render host config).run start).1.regions.length =
      one.regions.length := fun one =>
    (rendersAll_render hformat start).forall₂.length_eq.symm
  refine view.written_congr_of_alike (hdiffers.alike hformat hhost) ?_ ?_
  · rw [hlength, hlength, hdiffers.length_eq]
  · rintro report (hreport | hreport) drawing houtcome
    · obtain ⟨region, hregion, hpath⟩ := exists_region_of_drawing hformat hhost hreport houtcome
      exact hpath ▸ hfile region hregion
    · obtain ⟨region', hregion', hpath⟩ := exists_region_of_drawing hformat hhost hreport houtcome
      -- The documents name the same region there.
      have hlt := (List.getElem?_eq_some_iff.1 hregion').1
      have hregion := List.getElem?_eq_getElem (hdiffers.length_eq ▸ hlt)
      rw [hpath, hdiffers.id_eq hregion hregion']
      exact hfile _ hregion

end

/-- **No region affects another.** Two documents of one crate name the same regions and differ in
what one of them says. In a system where it depends on the path whether a request succeeds, two runs
that write DOT text report alike on every other region, and leave the same in every file that is not
the one of the differing region, unless the file is one that the system refuses. If the whole answer
depends on the path, the reports on the other regions are the same, and so are all other files. -/
theorem render_of_differsAt (host : Host (StateM σ)) (config : Config) (document other : Document)
    (position : Nat) (view : FileView σ φ) (start : σ) (made : Bool) (written : String → Bool)
    (hformat : config.format = .dot) (hdiffers : document.DiffersAt other position)
    (hhost : host.PathDetermined config view start made written) :
    (∀ i ≠ position, Option.Rel RegionReport.Alike
      ((document.render host config).run start).1.regions[i]?
      ((other.render host config).run start).1.regions[i]?) ∧
    (∀ file, (∀ region, document.regions[position]? = some region →
        view.file (config.diagramPath region.id) ≠ file) →
      (∀ name, view.file (config.diagramPath name) = file →
        written (config.diagramPath name) = true) →
      view.content ((document.render host config).run start).2 file =
        view.content ((other.render host config).run start).2 file) ∧
    ∀ directory answer, host.Steady config view start directory answer →
      (∀ i ≠ position, ((document.render host config).run start).1.regions[i]? =
        ((other.render host config).run start).1.regions[i]?) ∧
      ∀ file, (∀ region, document.regions[position]? = some region →
          view.file (config.diagramPath region.id) ≠ file) →
        view.content ((document.render host config).run start).2 file =
          view.content ((other.render host config).run start).2 file := by
  classical
  have hall : ∀ one : Document, one.RendersAll host config start one.regions start _ _ :=
    fun _ => rendersAll_render hformat start
  refine ⟨hdiffers.alike hformat hhost, fun file hfile hgranted => ?_,
    fun directory answer hsteady => ⟨fun i hi => ?_, fun file hfile => ?_⟩⟩
  · -- No failure concerns the file: where it goes, writing is granted.
    have hkept : ∀ state name text, host.Reaches config start state →
        host.directoryAnswer config state = .ok () →
          (host.writeAnswer config (config.diagramPath name) text state).isOk = false →
            view.content (host.withText config (config.diagramPath name) text state) file =
              view.content state file := fun state name text hstate hmade hrefused => by
      refine hhost.content_withText_of_ne name text hstate hmade fun hsame => ?_
      rw [hhost.isOk_writeAnswer name text hstate hmade, hgranted name hsame.symm] at hrefused
      cases hrefused
    have hsame := hdiffers.written_eq hformat hhost hfile
    rw [RunReport.drawings, RunReport.drawings] at hsame
    rw [(hall document).content_eq hhost hkept, (hall other).content_eq hhost hkept, hsame]
  · have hreport : other.steadyReport config directory answer =
        document.steadyReport config directory answer := by
      funext region
      rw [steadyReport, steadyReport, hdiffers.plan_eq]
    rw [report_render hformat hsteady, report_render hformat hsteady, List.getElem?_map,
      List.getElem?_map, hreport, hdiffers.getElem?_eq i hi]
  · have hsame := hdiffers.written_eq hformat hhost hfile
    rw [RunReport.drawings, RunReport.drawings] at hsame
    rw [(hall document).content_of_steady hsteady, (hall other).content_of_steady hsteady, hsame]

/-- A document about three regions, in which the second one calls a function. -/
def threeRegions (callee : String) : Document :=
  ⟨"demo", ⟨false, 0⟩, [.ofCall "a" "first", .ofCall "b" callee, .ofCall "c" "third"]⟩

/-- In an empty working directory the neighbours of a region do not notice when it calls itself and
has no diagram any more. -/
theorem render_of_differsAt_threeRegions :
    Config.dotInOut.format = .dot ∧
      (threeRegions "second").DiffersAt (threeRegions "b") 1 ∧
      FileSystem.host.PathDetermined .dotInOut (FileSystem.viewFrom ["out", "work"])
        FileSystem.empty true
        (fun path => ((FileSystem.empty.makeDirectories "out").1.answerAt path).isOk) ∧
      ((Region.ofCall "b" "second").callGraph Config.dotInOut.graphOptions).expand.isOk = true ∧
      ((Region.ofCall "b" "b").callGraph Config.dotInOut.graphOptions).expand.isOk = false ∧
      (∀ i ≠ 1, (((threeRegions "second").render FileSystem.host .dotInOut).run
          FileSystem.empty).1.regions[i]? =
        (((threeRegions "b").render FileSystem.host .dotInOut).run
          FileSystem.empty).1.regions[i]?) ∧
      ∀ file ≠ ["b.callgraph.dot", "out", "work"],
        (((threeRegions "second").render FileSystem.host .dotInOut).run
            FileSystem.empty).2.contentAt file =
          (((threeRegions "b").render FileSystem.host .dotInOut).run
            FileSystem.empty).2.contentAt file := by
  have hhost := FileSystem.steady_host_empty
  have hdiffers : (threeRegions "second").DiffersAt (threeRegions "b") 1 :=
    ⟨rfl, rfl, fun
      | 0, _ => rfl
      | 1, hne => absurd rfl hne
      | _ + 2, _ => rfl⟩
  obtain ⟨-, -, hsteady⟩ := render_of_differsAt FileSystem.host .dotInOut (threeRegions "second")
    (threeRegions "b") 1 (FileSystem.viewFrom ["out", "work"]) FileSystem.empty true _ rfl hdiffers
    hhost.pathDetermined
  obtain ⟨hreports, hfiles⟩ := hsteady _ _ hhost
  refine ⟨rfl, hdiffers, hhost.pathDetermined, by cbv, by cbv, hreports, fun file hfile => ?_⟩
  refine hfiles file fun region hregion hsame => hfile ?_
  obtain rfl := Option.some.inj hregion
  rw [← hsame]
  decide +kernel

end Document

end CallForest
