import CallForest.Proofs.FileSystem.Host
import CallForest.Proofs.Render.Run

/-! # Reports and files of a run

In a system that goes by paths, the report on a region follows from the document: another region has
the file, or the call graph is cyclic, or the system refuses what it always refuses, or there is a
diagram. Every file of a diagram holds the last one that was written to it, and all that were are
diagrams of one region.

* `Document.Settles`, `Document.Renders.settles`: what a report says.
* `Document.render_reports_and_files`: the reports and the files of a run. -/

namespace CallForest

variable {σ φ : Type}

namespace Document

/-- What comes of writing the diagram of a region: as `made` and `written` say, the system refuses
the output directory or the file in a state that runs lead to, or the diagram is there. -/
inductive Attempts (host : Host (StateM σ)) (config : Config) (document : Document) (start : σ)
    (made : Bool) (written : String → Bool) (region : Region) :
    Except RenderError Drawing → Prop where
  /-- The output directory is refused. -/
  | noDirectory {state : σ} {fault : SystemFault} (hmade : made = false)
      (hstate : host.Reaches config start state)
      (hanswer : host.directoryAnswer config state = .error fault) :
      Attempts host config document start made written region
        (.error (.createDirectory region.id config.outputDir fault))
  /-- The file is refused. -/
  | notWritten {forest : Forest} {state : σ} {fault : SystemFault} (hmade : made = true)
      (hwritten : written (config.diagramPath region.id) = false)
      (hforest : (region.callGraph config.graphOptions).expand = .ok forest)
      (hstate : host.Reaches config start state)
      (hanswer : host.writeAnswer config (config.diagramPath region.id)
        (document.drawing config region forest).text state = .error fault) :
      Attempts host config document start made written region
        (.error (.write region.id (config.diagramPath region.id) fault))
  /-- There is a diagram. -/
  | drawing {forest : Forest} (hmade : made = true)
      (hwritten : written (config.diagramPath region.id) = true)
      (hforest : (region.callGraph config.graphOptions).expand = .ok forest) :
      Attempts host config document start made written region
        (.ok (document.drawing config region forest))

/-- **What a report says of a region** in a system where it depends on the path whether a request
succeeds. -/
structure Settles (host : Host (StateM σ)) (config : Config) (document : Document) (start : σ)
    (made : Bool) (written : String → Bool) (region : Region) (report : RegionReport) : Prop where
  /-- It is about the region. -/
  id_eq : report.id = region.id
  /-- So is whatever went wrong. -/
  region_eq : ∀ error, report.outcome = .error error → error.region = region.id
  /-- A region whose file belongs to a region of another name collides with that one. -/
  collision : (document.firstAt config region).id ≠ region.id →
    report.outcome = .error (.pathCollision region.id (config.diagramPath region.id)
      (document.firstAt config region).id)
  /-- No other region collides. -/
  of_collision : ∀ name path other, report.outcome = .error (.pathCollision name path other) →
    (document.firstAt config region).id ≠ region.id
  /-- Of the others, those with a cyclic call graph have a cycle. -/
  cycle_iff : (document.firstAt config region).id = region.id →
    ((∃ error, report.outcome = .error (.cycle error)) ↔
      ¬ (region.callGraph config.graphOptions).Acyclic)
  /-- For all others it depends on the system. -/
  attempts : (document.firstAt config region).id = region.id →
    (region.callGraph config.graphOptions).Acyclic →
      document.Attempts host config start made written region report.outcome

variable {host : Host (StateM σ)} {config : Config} {document : Document} {view : FileView σ φ}
  {start state next : σ} {made : Bool} {written : String → Bool} {region : Region}
  {report : RegionReport}

namespace Settles

/-- The report on a collision. -/
theorem of_plan_collision (hfirst : (document.firstAt config region).id ≠ region.id) :
    document.Settles host config start made written region
      ⟨region.id, .error (.pathCollision region.id (config.diagramPath region.id)
        (document.firstAt config region).id)⟩ where
  id_eq := rfl
  region_eq := by
    rintro error ⟨⟩
    rfl
  collision _ := rfl
  of_collision _ _ _ _ := hfirst
  cycle_iff hsame := absurd hsame hfirst
  attempts hsame := absurd hsame hfirst

/-- The report on a cycle. -/
theorem of_plan_cycle {error : CycleError}
    (hfirst : (document.firstAt config region).id = region.id)
    (herror : (region.callGraph config.graphOptions).expand = .error error) :
    document.Settles host config start made written region ⟨region.id, .error (.cycle error)⟩ := by
  have hcyclic : ¬ (region.callGraph config.graphOptions).Acyclic :=
    (region.wellFormed_callGraph _).not_acyclic_of_expand_eq_error herror
  exact
    { id_eq := rfl
      region_eq := by
        rintro _ ⟨⟩
        exact (CallGraph.region_of_expand_eq_error herror).trans (region.region_callGraph _)
      collision := fun hne => absurd hfirst hne
      of_collision := by
        rintro _ _ _ ⟨⟩
      cycle_iff := fun _ => iff_of_true ⟨error, rfl⟩ hcyclic
      attempts := fun _ hacyclic => absurd hacyclic hcyclic }

/-- The report on a diagram, or on the system that refused it. -/
theorem of_attempts {outcome : Except RenderError Drawing}
    (hfirst : (document.firstAt config region).id = region.id)
    (hacyclic : (region.callGraph config.graphOptions).Acyclic)
    (hattempts : document.Attempts host config start made written region outcome) :
    document.Settles host config start made written region ⟨region.id, outcome⟩ where
  id_eq := rfl
  region_eq := by
    rintro error ⟨⟩
    cases hattempts <;> rfl
  collision hne := absurd hfirst hne
  of_collision := by
    rintro _ _ _ ⟨⟩
    cases hattempts
  cycle_iff _ := by
    refine iff_of_false ?_ (not_not.2 hacyclic)
    rintro ⟨error, ⟨⟩⟩
    cases hattempts
  attempts _ _ := hattempts

/-- The report on a region whose diagram can be drawn and written. -/
theorem outcome_eq_ok {forest : Forest}
    (hreport : document.Settles host config start true written region report)
    (hfirst : (document.firstAt config region).id = region.id)
    (hwritten : written (config.diagramPath region.id) = true)
    (hforest : (region.callGraph config.graphOptions).expand = .ok forest) :
    report.outcome = .ok (document.drawing config region forest) := by
  have hacyclic := (region.wellFormed_callGraph _).acyclic_of_expand_eq_ok hforest
  have hattempts := hreport.attempts hfirst hacyclic
  generalize report.outcome = outcome at hattempts ⊢
  cases hattempts with
  | noDirectory hmade => cases hmade
  | notWritten hmade hrefused =>
      rw [hwritten] at hrefused
      cases hrefused
  | drawing hmade hgranted hother =>
      rw [hforest] at hother
      rw [Except.ok.inj hother]

end Settles

/-- **What the report on a region says**, in whichever way it is rendered. -/
theorem Renders.settles (hhost : host.PathDetermined config view start made written)
    (hregion : region ∈ document.regions) (hstate : host.Reaches config start state)
    (hrenders : document.Renders host config region state report next) :
    document.Settles host config start made written region report := by
  cases hrenders with
  | refused hplan =>
      have hplans : document.Plans config region _ := plans_plan hregion
      rw [hplan] at hplans
      cases hplans with
      | collision hfirst => exact .of_plan_collision hfirst
      | cycle hfirst herror => exact .of_plan_cycle hfirst herror
  -- In the other cases there is a plan: the region has its file, and its call graph is acyclic.
  | noDirectory hplan hanswer =>
      obtain ⟨hfirst, forest, hforest, rfl⟩ := exists_forest_of_plan hregion hplan
      have hacyclic := (region.wellFormed_callGraph _).acyclic_of_expand_eq_ok hforest
      have hmade := hhost.made_of_error hstate hanswer
      exact .of_attempts hfirst hacyclic (.noDirectory hmade hstate hanswer)
  | notWritten hplan hgranted hanswer =>
      obtain ⟨hfirst, forest, hforest, rfl⟩ := exists_forest_of_plan hregion hplan
      have hacyclic := (region.wellFormed_callGraph _).acyclic_of_expand_eq_ok hforest
      have hmade := hhost.made_of_ok hstate hgranted
      have hwritten := hhost.written_of_error hstate hgranted hanswer
      exact .of_attempts hfirst hacyclic (.notWritten hmade hwritten hforest hstate hanswer)
  | written hplan hgranted hanswer =>
      obtain ⟨hfirst, forest, hforest, rfl⟩ := exists_forest_of_plan hregion hplan
      have hacyclic := (region.wellFormed_callGraph _).acyclic_of_expand_eq_ok hforest
      have hmade := hhost.made_of_ok hstate hgranted
      have hwritten := hhost.written_of_ok hstate hgranted hanswer
      exact .of_attempts hfirst hacyclic (.drawing hmade hwritten hforest)

/-- **The reports and the files of a run** that writes DOT text to a system where it depends on the
path whether a request succeeds. There is one report on each region, in the order of the document,
and the document and the system settle what it says. The file of a path holds the text of the last
diagram that went there, and all that did are diagrams of regions of one name. -/
theorem render_reports_and_files (host : Host (StateM σ)) (config : Config) (document : Document)
    (view : FileView σ φ) (start : σ) (made : Bool) (written : String → Bool)
    (hformat : config.format = .dot)
    (hhost : host.PathDetermined config view start made written) :
    ∃ report final, (document.render host config).run start = (report, final) ∧
      report.crateName = document.crateName ∧
      List.Forall₂ (document.Settles host config start made written) document.regions
        report.regions ∧
      (∀ path drawing, (report.drawings.filter (·.path = path)).getLast? = some drawing →
        view.content final (view.file path) = some (Bytes.ofText drawing.text)) ∧
      ∀ one ∈ report.drawings, ∀ two ∈ report.drawings, one.path = two.path →
        one.region = two.region := by
  have hall : document.RendersAll host config start document.regions start _ _ :=
    rendersAll_render hformat start
  refine ⟨_, _, rfl, rfl, ?_, fun path drawing hlast => ?_, fun one hone two htwo hpath => ?_⟩
  · exact hall.forall₂.imp fun region report ⟨hregion, before, after, hstate,
      hrenders⟩ => hrenders.settles hhost hregion hstate
  · exact hall.content_of_last hhost hlast
  · obtain ⟨region, hregion, hplan, -⟩ := hall.exists_of_mem_drawings hone
    obtain ⟨other, hother, hplan', -⟩ := hall.exists_of_mem_drawings htwo
    obtain ⟨hname, hgoes, -⟩ := drawing_of_plan hregion hplan
    obtain ⟨hname', hgoes', -⟩ := drawing_of_plan hother hplan'
    rw [hname, hname']
    exact id_eq_of_plan hregion hother hplan hplan' (by rw [← hgoes, ← hgoes', hpath])

end Document

/-- A region whose function fails and calls another one. -/
def Region.ofCall (caller callee : String) : Region :=
  ⟨caller, none, none, none, [], [⟨caller, [callee], true, false, false⟩]⟩

/-- A document with a path that two regions of one name share with a region of another name. -/
def Document.sharedPath : Document :=
  ⟨"demo", ⟨false, 0⟩, [.ofCall "a/b" "first", .ofCall "a_b" "second", .ofCall "a/b" "third"]⟩

/-- In an empty working directory the region of another name collides with the first one, and the
file holds the diagram of the last one. -/
theorem Document.render_reports_and_files_sharedPath :
    Config.dotInOut.format = .dot ∧
      FileSystem.host.PathDetermined .dotInOut (FileSystem.viewFrom ["out", "work"])
        FileSystem.empty true
        (fun path => ((FileSystem.empty.makeDirectories "out").1.answerAt path).isOk) ∧
      ∃ report final,
        (sharedPath.render FileSystem.host .dotInOut).run FileSystem.empty = (report, final) ∧
        (report.regions.map (·.outcome))[1]? =
          some (.error (.pathCollision "a_b" "out/a_b.callgraph.dot" "a/b")) ∧
        final.contentAt ["a_b.callgraph.dot", "out", "work"] =
          some (Bytes.ofText (sharedPath.drawing .dotInOut (.ofCall "a/b" "third")
            (.ofGrove "a/b" (.plant "a/b" (.plant "third" .bare .bare) .bare))).text) := by
  have hhost := FileSystem.steady_host_empty.pathDetermined
  refine ⟨rfl, hhost, ?_⟩
  obtain ⟨report, final, hrun, -, hreports, hcontent, -⟩ :=
    render_reports_and_files FileSystem.host .dotInOut sharedPath
      (FileSystem.viewFrom ["out", "work"]) FileSystem.empty true _ rfl hhost
  obtain ⟨crateName, regions⟩ := report
  obtain ⟨one, behindOne, hone, hbehindOne, rfl⟩ := List.forall₂_cons_left_iff.1 hreports
  obtain ⟨two, behindTwo, htwo, hbehindTwo, rfl⟩ := List.forall₂_cons_left_iff.1 hbehindOne
  obtain ⟨three, behindThree, hthree, hnone, rfl⟩ := List.forall₂_cons_left_iff.1 hbehindTwo
  obtain rfl := List.forall₂_nil_left_iff.1 hnone
  have hexpand : ∀ callee ∈ ["first", "third"],
      ((Region.ofCall "a/b" callee).callGraph Config.dotInOut.graphOptions).expand =
        .ok (.ofGrove "a/b" (.plant "a/b" (.plant callee .bare .bare) .bare)) := by
    simp only [List.forall_mem_cons, List.not_mem_nil, false_implies, implies_true, and_true]
    exact ⟨by cbv, by cbv⟩
  have hone := hone.outcome_eq_ok (by decide +kernel) (by decide +kernel)
    (hexpand "first" (by simp))
  have htwo := htwo.collision (by decide +kernel)
  have hthree := hthree.outcome_eq_ok (by decide +kernel) (by decide +kernel)
    (hexpand "third" (by simp))
  refine ⟨_, final, hrun, ?_, ?_⟩
  · rw [List.map_cons, List.map_cons, List.getElem?_cons_succ, List.getElem?_cons_zero, htwo]
    decide +kernel
  · have hdrawings : RunReport.drawings ⟨crateName, [one, two, three]⟩ =
        ["first", "third"].map fun callee => sharedPath.drawing .dotInOut (.ofCall "a/b" callee)
          (.ofGrove "a/b" (.plant "a/b" (.plant callee .bare .bare) .bare)) := by
      simp [RunReport.drawings, RegionReport.drawings, hone, htwo, hthree, Except.toOption]
    have hpath : Config.dotInOut.diagramPath "a/b" = "out/a_b.callgraph.dot" := by decide +kernel
    refine hcontent "out/a_b.callgraph.dot" _ ?_
    rw [hdrawings]
    simp [drawing, Region.ofCall, hpath]

end CallForest
