import CallForest.Proofs.Render.Plan
import CallForest.Proofs.Render.System

/-! # What a run leaves behind

A region is rendered in one of four ways, and a run is a chain of them. By induction on the chain
follows what the run leaves behind: the diagram that was written last to a file is there, and a file
that no diagram went to is as it was.

* `RunReport.drawings`, `RegionReport.lastAt?`: the diagrams that a run has written, and the last
  one of a path.
* `FileView.written`: what diagrams written one after the other leave in a file.
* `Document.Renders`, `Document.renders_renderRegion`: the ways of rendering a region.
* `Document.RendersAll`, `Document.rendersAll_mapM`: runs.
* `Document.RendersAll.content_eq`: what a file holds after a run.
* `Document.RendersAll.holds_of_last`: the last diagram of a path is there after a run. -/

namespace CallForest

variable {σ φ : Type}

/-! ### Reports -/

/-- The diagrams that reports speak of, in their order. -/
def RegionReport.drawings (reports : List RegionReport) : List Drawing :=
  reports.filterMap (·.outcome.toOption)

/-- The **last diagram of a path** that reports speak of. -/
def RegionReport.lastAt? (path : String) (reports : List RegionReport) : Option Drawing :=
  ((drawings reports).filter (·.path = path)).getLast?

/-- The **diagrams that a run has written**, in the order of the document. -/
def RunReport.drawings (report : RunReport) : List Drawing := RegionReport.drawings report.regions

namespace RegionReport

variable {reports : List RegionReport}

/-- Diagrams are what successful reports speak of. -/
theorem mem_drawings_iff {drawing : Drawing} :
    drawing ∈ drawings reports ↔ ∃ report ∈ reports, report.outcome = .ok drawing := by
  simp only [drawings, List.mem_filterMap]
  refine exists_congr fun report => and_congr_right fun _ => ?_
  cases report.outcome <;> simp [Except.toOption]

/-- A report on a failure speaks of no diagram. -/
@[simp] theorem drawings_cons_error (id : String) (error : RenderError) :
    drawings (⟨id, .error error⟩ :: reports) = drawings reports := rfl

/-- A report on a success speaks of its diagram. -/
@[simp] theorem drawings_cons_ok (id : String) (drawing : Drawing) :
    drawings (⟨id, .ok drawing⟩ :: reports) = drawing :: drawings reports := rfl

/-- No diagram of a path is the last one if none goes there. -/
theorem lastAt?_eq_none_iff {path : String} :
    lastAt? path reports = none ↔ ∀ drawing ∈ drawings reports, drawing.path ≠ path := by
  simp [lastAt?]

/-- The first diagram is the last one of its path if no other goes there. -/
theorem lastAt?_cons_ok (path id : String) (drawing : Drawing) :
    lastAt? path (⟨id, .ok drawing⟩ :: reports) =
      (lastAt? path reports).or (if drawing.path = path then some drawing else none) := by
  rw [lastAt?, lastAt?, drawings_cons_ok]
  split_ifs with hpath
  · rw [List.filter_cons_of_pos (by simpa using hpath), List.getLast?_cons]
    cases ((drawings reports).filter (·.path = path)).getLast? <;> rfl
  · rw [List.filter_cons_of_neg (by simpa using hpath), Option.or_none]

end RegionReport

/-- What diagrams that are written one after the other leave in a file, if one of them goes
there: the text of the last one. -/
def FileView.written [DecidableEq φ] (view : FileView σ φ) (drawings : List Drawing) (file : φ) :
    Option Bytes :=
  (drawings.filter (view.file ·.path = file)).getLast?.map (Bytes.ofText ·.text)

/-- A diagram is what its file holds until another one is written there. -/
theorem FileView.written_cons [DecidableEq φ] (view : FileView σ φ) (first : Drawing)
    (drawings : List Drawing) (file : φ) (old : Option Bytes) :
    (view.written (first :: drawings) file).or old =
      (view.written drawings file).or
        (if view.file first.path = file then some (Bytes.ofText first.text) else old) := by
  simp only [written]
  by_cases hfile : view.file first.path = file
  · rw [if_pos hfile, List.filter_cons_of_pos (by simpa using hfile), List.getLast?_cons]
    cases (drawings.filter (view.file ·.path = file)).getLast? <;> rfl
  · rw [if_neg hfile, List.filter_cons_of_neg (by simpa using hfile)]

/-! ### Ways of rendering a region -/

variable {host : Host (StateM σ)} {config : Config}

namespace Drawing

variable {drawing : Drawing} {state : σ}

/-- Without an output directory nothing is published. -/
theorem run_publish_of_error {fault : SystemFault}
    (hanswer : host.directoryAnswer config state = .error fault) :
    (drawing.publish host config).run state =
      (.error (.createDirectory drawing.region config.outputDir fault),
        host.withDirectory config state) := by
  have hdirectory : (host.makeDirectories config.outputDir).run state =
      (.error fault, host.withDirectory config state) := Prod.ext hanswer rfl
  rw [publish, StateT.run_bind, hdirectory]
  rfl

/-- In the output directory a diagram is published by writing its text. -/
theorem run_publish_of_ok (hformat : config.format = .dot)
    (hanswer : host.directoryAnswer config state = .ok ()) :
    (drawing.publish host config).run state =
      ((host.writeAnswer config drawing.path drawing.text state).mapError
          (.write drawing.region drawing.path),
        host.withText config drawing.path drawing.text state) := by
  have hdirectory : (host.makeDirectories config.outputDir).run state =
      (.ok (), host.withDirectory config state) := Prod.ext hanswer rfl
  rw [publish, StateT.run_bind, hdirectory, hformat]
  rfl

end Drawing

namespace Document

variable {document : Document}

/-- The **ways of rendering a region** without a layout program, each with its report and with the
state that it leads to. -/
inductive Renders (host : Host (StateM σ)) (config : Config) (document : Document)
    (region : Region) (state : σ) : RegionReport → σ → Prop where
  /-- No diagram can be planned; nothing is asked for. -/
  | refused {error : RenderError} (hplan : document.plan config region = .error error) :
      Renders host config document region state ⟨region.id, .error error⟩ state
  /-- The output directory cannot be made. -/
  | noDirectory {drawing : Drawing} {fault : SystemFault}
      (hplan : document.plan config region = .ok drawing)
      (hanswer : host.directoryAnswer config state = .error fault) :
      Renders host config document region state
        ⟨region.id, .error (.createDirectory drawing.region config.outputDir fault)⟩
        (host.withDirectory config state)
  /-- The diagram cannot be written. -/
  | notWritten {drawing : Drawing} {fault : SystemFault}
      (hplan : document.plan config region = .ok drawing)
      (hmade : host.directoryAnswer config state = .ok ())
      (hanswer : host.writeAnswer config drawing.path drawing.text state = .error fault) :
      Renders host config document region state
        ⟨region.id, .error (.write drawing.region drawing.path fault)⟩
        (host.withText config drawing.path drawing.text state)
  /-- The diagram is written. -/
  | written {drawing : Drawing} (hplan : document.plan config region = .ok drawing)
      (hmade : host.directoryAnswer config state = .ok ())
      (hanswer : host.writeAnswer config drawing.path drawing.text state = .ok ()) :
      Renders host config document region state ⟨region.id, .ok drawing⟩
        (host.withText config drawing.path drawing.text state)

/-- **A region is rendered in one of the four ways.** -/
theorem renders_renderRegion (hformat : config.format = .dot) (region : Region) (state : σ) :
    document.Renders host config region state
      ((document.renderRegion host config region).run state).1
      ((document.renderRegion host config region).run state).2 := by
  cases hplan : document.plan config region with
  | error error =>
      have hrun : (document.renderRegion host config region).run state =
          (⟨region.id, .error error⟩, state) := by
        rw [renderRegion, hplan]
        rfl
      rw [hrun]
      exact .refused hplan
  | ok drawing =>
      have hrun : (document.renderRegion host config region).run state =
          (⟨region.id, ((drawing.publish host config).run state).1.map fun _ => drawing⟩,
            ((drawing.publish host config).run state).2) := by
        rw [renderRegion, hplan]
        rfl
      rw [hrun]
      cases hmade : host.directoryAnswer config state with
      | error fault =>
          rw [Drawing.run_publish_of_error hmade]
          exact .noDirectory hplan hmade
      | ok _ =>
          rw [Drawing.run_publish_of_ok hformat hmade]
          cases hanswer : host.writeAnswer config drawing.path drawing.text state with
          | error fault => exact .notWritten hplan hmade hanswer
          | ok _ => exact .written hplan hmade hanswer

/-- A region that is rendered leads from a state of runs to another one. -/
theorem Renders.reaches {region : Region} {report : RegionReport} {start state next : σ}
    (hregion : region ∈ document.regions)
    (hrenders : document.Renders host config region state report next)
    (hstate : host.Reaches config start state) : host.Reaches config start next := by
  cases hrenders with
  | refused hplan => exact hstate
  | noDirectory hplan hanswer => exact .directory hstate
  | notWritten hplan hmade hanswer =>
      rw [(drawing_of_plan hregion hplan).2.1]
      exact .text hstate hmade region.id _
  | written hplan hmade hanswer =>
      rw [(drawing_of_plan hregion hplan).2.1]
      exact .text hstate hmade region.id _

/-- **Runs**: regions of the document are rendered one after the other, in states that runs from
`start` lead to. -/
inductive RendersAll (host : Host (StateM σ)) (config : Config) (document : Document) (start : σ) :
    List Region → σ → List RegionReport → σ → Prop where
  /-- There is nothing to render. -/
  | nil {state : σ} : RendersAll host config document start [] state [] state
  /-- A region is rendered, and then the others. -/
  | cons {region : Region} {regions : List Region} {report : RegionReport}
      {reports : List RegionReport} {state next final : σ}
      (hregion : region ∈ document.regions) (hstate : host.Reaches config start state)
      (hfirst : document.Renders host config region state report next)
      (hrest : RendersAll host config document start regions next reports final) :
      RendersAll host config document start (region :: regions) state (report :: reports) final

/-- Rendering regions one after the other is a run. -/
theorem rendersAll_mapM {start state : σ} {regions : List Region} (hformat : config.format = .dot)
    (hregions : ∀ region ∈ regions, region ∈ document.regions)
    (hstate : host.Reaches config start state) :
    document.RendersAll host config start regions state
      ((regions.mapM (document.renderRegion host config)).run state).1
      ((regions.mapM (document.renderRegion host config)).run state).2 := by
  induction regions generalizing state with
  | nil => exact .nil
  | cons region regions ih =>
      obtain ⟨hregion, hregions⟩ := List.forall_mem_cons.1 hregions
      have hfirst : document.Renders host config region state _ _ :=
        renders_renderRegion hformat region state
      rw [List.mapM_cons]
      exact .cons hregion hstate hfirst (ih hregions (hfirst.reaches hregion hstate))

/-- A run over a document is a run over its regions. -/
theorem rendersAll_render (hformat : config.format = .dot) (start : σ) :
    document.RendersAll host config start document.regions start
      ((document.render host config).run start).1.regions
      ((document.render host config).run start).2 :=
  rendersAll_mapM hformat (fun _ => id) .start

/-! ### What holds throughout a run -/

section

variable {regions : List Region} {reports : List RegionReport} {start state final : σ}

/-- A run gives a report on every region, in their order, each by rendering the region in a state of
runs. -/
theorem RendersAll.forall₂
    (hall : document.RendersAll host config start regions state reports final) :
    List.Forall₂ (fun region report => region ∈ document.regions ∧ ∃ before after,
      host.Reaches config start before ∧
        document.Renders host config region before report after) regions reports := by
  induction hall with
  | nil => exact .nil
  | cons hregion hstate hfirst hrest ih => exact .cons ⟨hregion, _, _, hstate, hfirst⟩ ih

/-- **What a file holds after a run**: the last diagram that was written there, or what it held
before, provided that failures leave it as it is. -/
theorem RendersAll.content_eq [DecidableEq φ] {view : FileView σ φ} {made : Bool}
    {written : String → Bool} (hhost : host.PathDetermined config view start made written)
    {file : φ}
    (hfile : ∀ state region text, host.Reaches config start state →
      host.directoryAnswer config state = .ok () →
        (host.writeAnswer config (config.diagramPath region) text state).isOk = false →
          view.content (host.withText config (config.diagramPath region) text state) file =
            view.content state file)
    (hall : document.RendersAll host config start regions state reports final) :
    view.content final file =
      (view.written (RegionReport.drawings reports) file).or (view.content state file) := by
  induction hall with
  | nil => rfl
  | @cons region regions report reports state next final hregion hstate hfirst hrest ih =>
      rw [ih]
      -- What follows sees only the state that the first region leads to.
      cases hfirst with
      | refused hplan => rfl
      | noDirectory hplan hanswer =>
          rw [hhost.content_withDirectory hstate, RegionReport.drawings_cons_error]
      | @notWritten drawing fault hplan hmade hanswer =>
          have hpath := (drawing_of_plan hregion hplan).2.1
          rw [hpath] at hanswer
          rw [hpath, hfile _ _ _ hstate hmade (by rw [hanswer]; rfl),
            RegionReport.drawings_cons_error]
      | @written drawing hplan hmade hanswer =>
          have hpath := (drawing_of_plan hregion hplan).2.1
          rw [RegionReport.drawings_cons_ok, FileView.written_cons]
          rw [hpath] at hanswer
          rw [hpath]
          congr 1
          by_cases hsame : view.file (config.diagramPath region.id) = file
          · rw [if_pos hsame, ← hsame]
            exact hhost.content_withText _ _ hstate hmade hanswer
          · rw [if_neg hsame]
            exact hhost.content_withText_of_ne _ _ hstate hmade (Ne.symm hsame)

/-- A report on a diagram is that on a region for which the diagram was planned, and the system
granted it. -/
theorem RendersAll.exists_of_outcome {report : RegionReport} {drawing : Drawing}
    (hall : document.RendersAll host config start regions state reports final)
    (hreport : report ∈ reports) (houtcome : report.outcome = .ok drawing) :
    ∃ region ∈ document.regions, report.id = region.id ∧
      document.plan config region = .ok drawing ∧
        ∃ before, host.Reaches config start before ∧ host.directoryAnswer config before = .ok () ∧
          host.writeAnswer config drawing.path drawing.text before = .ok () := by
  induction hall with
  | nil => cases hreport
  | cons hregion hstate hfirst hrest ih =>
      obtain rfl | hreport := List.mem_cons.1 hreport
      · cases hfirst with
        | written hplan hmade hanswer =>
            obtain rfl := Except.ok.inj houtcome
            exact ⟨_, hregion, rfl, hplan, _, hstate, hmade, hanswer⟩
        | refused | noDirectory | notWritten => cases houtcome
      · exact ih hreport

/-- A diagram that a run has written was planned for a region, and the system granted it. -/
theorem RendersAll.exists_of_mem_drawings {drawing : Drawing}
    (hall : document.RendersAll host config start regions state reports final)
    (hdrawing : drawing ∈ RegionReport.drawings reports) :
    ∃ region ∈ document.regions, document.plan config region = .ok drawing ∧
      ∃ before, host.Reaches config start before ∧ host.directoryAnswer config before = .ok () ∧
        host.writeAnswer config drawing.path drawing.text before = .ok () := by
  obtain ⟨report, hreport, houtcome⟩ := RegionReport.mem_drawings_iff.1 hdrawing
  obtain ⟨region, hregion, -, hplanned⟩ := hall.exists_of_outcome hreport houtcome
  exact ⟨region, hregion, hplanned⟩

end

/-! ### Diagrams after a run -/

section

variable {holds : σ → String → Bytes → Prop} {region : Region} {regions : List Region}
  {report : RegionReport} {reports : List RegionReport} {id path : String} {content : Bytes}
  {drawing : Drawing} {start state next final : σ}

/-- Rendering a region leaves what is there under the path of a diagram, unless its diagram goes
there. -/
theorem Renders.holds_of_holds (hhost : host.Keeps config holds start)
    (hregion : region ∈ document.regions) (hstate : host.Reaches config start state)
    (hrenders : document.Renders host config region state report next)
    (hother : ∀ drawing, report.outcome = .ok drawing → drawing.path ≠ config.diagramPath id)
    (hholds : holds state (config.diagramPath id) content) :
    holds next (config.diagramPath id) content := by
  cases hrenders with
  | refused hplan => exact hholds
  | noDirectory hplan hanswer => exact hhost.holds_withDirectory id hstate hholds
  | @notWritten drawing fault hplan hmade hanswer =>
      rw [(drawing_of_plan hregion hplan).2.1] at hanswer ⊢
      refine hhost.holds_withText_of_holds id region.id _ hstate hmade (fun hok => ?_) hholds
      rw [hanswer] at hok
      cases hok
  | @written drawing hplan hmade hanswer =>
      have hne := hother drawing rfl
      rw [(drawing_of_plan hregion hplan).2.1] at hne ⊢
      exact hhost.holds_withText_of_holds id region.id _ hstate hmade (fun _ => hne) hholds

/-- **What is there under a path stays** throughout a run, unless a diagram goes there. -/
theorem RendersAll.holds_of_holds (hhost : host.Keeps config holds start)
    (hall : document.RendersAll host config start regions state reports final)
    (hother : ∀ drawing ∈ RegionReport.drawings reports, drawing.path ≠ config.diagramPath id)
    (hholds : holds state (config.diagramPath id) content) :
    holds final (config.diagramPath id) content := by
  induction hall with
  | nil => exact hholds
  | cons hregion hstate hfirst hrest ih =>
      have hnext := hfirst.holds_of_holds hhost hregion hstate
        (fun drawing houtcome => hother drawing
          (RegionReport.mem_drawings_iff.2 ⟨_, List.mem_cons_self, houtcome⟩)) hholds
      refine ih (fun drawing hdrawing => hother drawing ?_) hnext
      obtain ⟨report, hreport, houtcome⟩ := RegionReport.mem_drawings_iff.1 hdrawing
      exact RegionReport.mem_drawings_iff.2 ⟨report, List.mem_cons_of_mem _ hreport, houtcome⟩

/-- **The last diagram of a path is there** after a run. -/
theorem RendersAll.holds_of_last (hhost : host.Keeps config holds start)
    (hall : document.RendersAll host config start regions state reports final)
    (hlast : RegionReport.lastAt? path reports = some drawing) :
    holds final path (Bytes.ofText drawing.text) := by
  induction hall with
  | nil => cases hlast
  | @cons region regions report reports state next final hregion hstate hfirst hrest ih =>
      cases hfirst with
      | refused hplan => exact ih hlast
      | noDirectory hplan hanswer => exact ih hlast
      | notWritten hplan hmade hanswer => exact ih hlast
      | @written first hplan hmade hanswer =>
          rw [RegionReport.lastAt?_cons_ok] at hlast
          cases hmore : RegionReport.lastAt? path reports with
          -- Another diagram goes to the path later.
          | some later =>
              rw [hmore] at hlast
              exact ih (hmore.trans hlast)
          -- No other diagram goes there, so that it is this one, and it stays.
          | none =>
              have hother := RegionReport.lastAt?_eq_none_iff.1 hmore
              rw [hmore, Option.none_or] at hlast
              split_ifs at hlast with hpath
              obtain rfl := Option.some.inj hlast
              rw [← hpath] at hother ⊢
              rw [(drawing_of_plan hregion hplan).2.1] at hanswer hrest hother ⊢
              exact hrest.holds_of_holds hhost hother
                (hhost.holds_withText region.id _ hstate hmade hanswer)

/-- **The last diagram of a path is in its file**, also where the system does not keep its files
when it fails: where one diagram could be written, all could. -/
theorem RendersAll.content_of_last {view : FileView σ φ} {made : Bool} {written : String → Bool}
    (hhost : host.PathDetermined config view start made written)
    (hall : document.RendersAll host config start regions state reports final)
    (hlast : RegionReport.lastAt? path reports = some drawing) :
    view.content final (view.file path) = some (Bytes.ofText drawing.text) :=
  (hall.holds_of_last hhost.keeps hlast).2

end

end Document

end CallForest
