import CallForest.Proofs.ListSplit
import CallForest.Proofs.Render.Outcome
import CallForest.Proofs.Text.Bytes
import Mathlib.Data.List.Perm.Basic

/-! # Runs in another order

Regions can be rendered in any order, when several are taken up at a time. Each report goes back to
the position of its region, so that the reports do not show the order. The files show it only where
regions of one name have different diagrams: which of these diagrams stays is a matter of which was
written last.

* `Document.renderInOrder`: a run that takes the regions up in some order.
* `Document.steadyReport`: the report on a region, which is the same in every order.
* `Document.content_renderInOrder`: what the files hold after a run.
* `Document.renderInOrder_eq_render_iff`: in which documents the order makes no difference. -/

namespace CallForest

/-- Renders a document whose regions are **taken up in some order**, each with its position, and
puts the reports at the positions of their regions. -/
def Document.renderInOrder {m : Type → Type} [Monad m] (host : Host m) (config : Config)
    (document : Document) (order : List (Region × Nat)) : m RunReport := do
  let reports ← (order.map Prod.fst).mapM (document.renderRegion host config)
  return ⟨document.crateName, (List.range document.regions.length).filterMap fun position =>
    ((order.map Prod.snd).zip reports).lookup position⟩

/-! ### Positions -/

section

variable {α β : Type} {entries : List α} {order : List (α × Nat)}

/-- **What is done with the elements of a list in any order** is found under their positions. -/
theorem lookup_of_perm_zipIdx (hperm : order.Perm entries.zipIdx) (value : α → β) (position : Nat) :
    ((order.map Prod.snd).zip ((order.map Prod.fst).map value)).lookup position =
      entries[position]?.map value := by
  have hzip : (order.map Prod.snd).zip ((order.map Prod.fst).map value) =
      order.map fun entry => (entry.2, value entry.1) := by
    rw [List.map_map, List.zip_map']
    rfl
  -- Positions are the keys, and a list has each of its positions once.
  have hkeys : ((order.map fun entry => (entry.2, value entry.1)).map Prod.fst).Nodup := by
    rw [List.map_map, (hperm.map _).nodup_iff]
    exact (congrArg List.Nodup (List.zipIdx_map_snd 0 entries)).mpr List.nodup_range'
  rw [hzip]
  cases hentry : entries[position]? with
  | some entry =>
      refine lookup_eq_some_of_mem hkeys (List.mem_map.2 ⟨(entry, position), ?_, rfl⟩)
      exact hperm.mem_iff.2 (List.mem_zipIdx_iff_getElem?.2 hentry)
  | none =>
      refine List.lookup_eq_none_iff.2 fun other hother => ?_
      obtain ⟨⟨entry, index⟩, hindex, rfl⟩ := List.mem_map.1 hother
      have hsome := List.mem_zipIdx_iff_getElem?.1 (hperm.mem_iff.1 hindex)
      simp only [bne_iff_ne, ne_eq]
      rintro rfl
      simp [hentry] at hsome

/-- The elements of a list, one position after the other. -/
theorem filterMap_range_getElem? (entries : List α) :
    (List.range entries.length).filterMap (entries[·]?) = entries := by
  induction entries with
  | nil => rfl
  | cons entry entries ih =>
      rw [List.length_cons, List.range_succ_eq_map, List.filterMap_cons, List.filterMap_map]
      exact congrArg (entry :: ·) ih

end

/-! ### What is written last -/

variable {σ φ : Type}

/-- The last diagram that is written to a file stays. -/
theorem FileView.written_concat [DecidableEq φ] (view : FileView σ φ) (drawings : List Drawing)
    (last : Drawing) :
    view.written (drawings ++ [last]) (view.file last.path) = some (Bytes.ofText last.text) := by
  rw [written, List.filter_append, List.filter_cons_of_pos (by simp), List.filter_nil,
    List.getLast?_concat, Option.map_some]

/-- Where all diagrams of a file have one text, it does not matter which is written last. -/
theorem FileView.written_congr [DecidableEq φ] (view : FileView σ φ)
    {drawings others : List Drawing} {file : φ}
    (hmem : ∀ drawing, drawing ∈ drawings ↔ drawing ∈ others)
    (hagree : ∀ one ∈ drawings, ∀ two ∈ drawings, view.file one.path = view.file two.path →
      one.text = two.text) :
    view.written drawings file = view.written others file := by
  have hfilter : ∀ drawing, drawing ∈ drawings.filter (view.file ·.path = file) ↔
      drawing ∈ others.filter (view.file ·.path = file) := fun drawing => by
    rw [List.mem_filter, List.mem_filter, hmem]
  rw [written, written]
  cases hlast : (drawings.filter (view.file ·.path = file)).getLast? with
  | none =>
      have hnone : others.filter (view.file ·.path = file) = [] :=
        List.eq_nil_iff_forall_not_mem.2 fun drawing hdrawing => by
          rw [← hfilter, List.getLast?_eq_none_iff.1 hlast] at hdrawing
          cases hdrawing
      rw [hnone]
      rfl
  | some one =>
      -- The last diagrams of the two lists may differ, but each is in both lists.
      have hone := List.mem_of_getLast? hlast
      obtain ⟨two, hlast'⟩ : ∃ two, (others.filter (view.file ·.path = file)).getLast? = some two :=
        Option.isSome_iff_exists.1
          (List.getLast?_isSome.2 (List.ne_nil_of_mem ((hfilter one).1 hone)))
      have htwo := (hfilter two).2 (List.mem_of_getLast? hlast')
      obtain ⟨hone, hfile⟩ := List.mem_filter.1 hone
      obtain ⟨htwo, hfile'⟩ := List.mem_filter.1 htwo
      rw [hlast', Option.map_some, Option.map_some,
        hagree one hone two htwo ((of_decide_eq_true hfile).trans (of_decide_eq_true hfile').symm)]

/-! ### Reports and files in any order -/

namespace Document

/-- The **report on a region** in a system in which the whole answer depends on the path. -/
def steadyReport (config : Config) (document : Document) (directory : Except SystemFault Unit)
    (answer : String → Except SystemFault Unit) (region : Region) : RegionReport :=
  ⟨region.id, do
    let drawing ← document.plan config region
    directory.mapError (.createDirectory drawing.region config.outputDir)
    (answer drawing.path).mapError (.write drawing.region drawing.path)
    return drawing⟩

variable {host : Host (StateM σ)} {config : Config} {document : Document} {view : FileView σ φ}
  {start state next final : σ} {directory : Except SystemFault Unit}
  {answer : String → Except SystemFault Unit} {region : Region} {regions : List Region}
  {report : RegionReport} {reports : List RegionReport} {order : List (Region × Nat)}

/-- The report on a region is the same in every state of runs. -/
theorem Renders.report_eq (hhost : host.Steady config view start directory answer)
    (hregion : region ∈ document.regions) (hstate : host.Reaches config start state)
    (hrenders : document.Renders host config region state report next) :
    report = document.steadyReport config directory answer region := by
  rw [steadyReport]
  cases hrenders with
  | refused hplan =>
      rw [hplan]
      rfl
  | noDirectory hplan hanswer =>
      rw [hplan, ← hhost.directoryAnswer_eq hstate, hanswer]
      rfl
  | @notWritten drawing fault hplan hmade hanswer =>
      have hgoes := (drawing_of_plan hregion hplan).2.1
      have hrefused : answer drawing.path = .error fault := by
        rw [hgoes] at hanswer ⊢
        rw [← hhost.writeAnswer_eq region.id drawing.text hstate hmade, hanswer]
      rw [hplan, ← hhost.directoryAnswer_eq hstate, hmade]
      simp only [bind, Except.bind, hrefused]
      rfl
  | @written drawing hplan hmade hanswer =>
      have hgoes := (drawing_of_plan hregion hplan).2.1
      have hgranted : answer drawing.path = .ok () := by
        rw [hgoes] at hanswer ⊢
        rw [← hhost.writeAnswer_eq region.id drawing.text hstate hmade, hanswer]
      rw [hplan, ← hhost.directoryAnswer_eq hstate, hmade]
      simp only [bind, Except.bind, hgranted]
      rfl

/-- So are the reports of a run. -/
theorem RendersAll.reports_eq (hhost : host.Steady config view start directory answer)
    (hall : document.RendersAll host config start regions state reports final) :
    reports = regions.map (document.steadyReport config directory answer) := by
  induction hall with
  | nil => rfl
  | cons hregion hstate hfirst hrest ih =>
      rw [List.map_cons, ← hfirst.report_eq hhost hregion hstate, ← ih]

/-- What a file holds after regions have been rendered, one after the other: failures concern no
file. -/
theorem RendersAll.content_of_steady [DecidableEq φ]
    (hhost : host.Steady config view start directory answer)
    (hall : document.RendersAll host config start regions state reports final) (file : φ) :
    view.content final file =
      (view.written (RegionReport.drawings reports) file).or (view.content state file) := by
  refine hall.content_eq hhost.pathDetermined fun state region text hstate hmade hrefused => ?_
  cases hanswer : host.writeAnswer config (config.diagramPath region) text state with
  | error fault => rw [hhost.content_withText_of_error region text hstate hmade hanswer]
  | ok _ =>
      rw [hanswer] at hrefused
      cases hrefused

/-! ### Runs -/

/-- Regions that are taken up in an order are regions of the document. -/
theorem mem_regions_of_perm (hperm : order.Perm document.regions.zipIdx) :
    ∀ region ∈ order.map Prod.fst, region ∈ document.regions := by
  intro region hregion
  have hmem := (hperm.map Prod.fst).mem_iff.1 hregion
  rwa [List.zipIdx_map_fst] at hmem

/-- **The reports of a run** in the order of the document. -/
theorem report_render (hformat : config.format = .dot)
    (hhost : host.Steady config view start directory answer) :
    ((document.render host config).run start).1 =
      ⟨document.crateName, document.regions.map (document.steadyReport config directory answer)⟩ :=
  congrArg (RunReport.mk document.crateName)
    ((rendersAll_render hformat start).reports_eq hhost)

/-- **The reports of a run in any order** are those of a run in the order of the document. -/
theorem report_renderInOrder (hformat : config.format = .dot)
    (hhost : host.Steady config view start directory answer)
    (hperm : order.Perm document.regions.zipIdx) :
    ((document.renderInOrder host config order).run start).1 =
      ⟨document.crateName,
        document.regions.map (document.steadyReport config directory answer)⟩ := by
  have hall : document.RendersAll host config start (order.map Prod.fst) start _ _ :=
    rendersAll_mapM hformat (mem_regions_of_perm hperm) .start
  have hreports := hall.reports_eq hhost
  -- A report depends on its region alone, so that it is found where the region stands.
  have hrun : ((document.renderInOrder host config order).run start).1 =
      ⟨document.crateName, (List.range document.regions.length).filterMap fun position =>
        ((order.map Prod.snd).zip
          (((order.map Prod.fst).mapM (document.renderRegion host config)).run start).1).lookup
            position⟩ := rfl
  rw [hrun, hreports]
  simp only [lookup_of_perm_zipIdx hperm]
  rw [← List.map_filterMap, filterMap_range_getElem?]

/-- The diagrams that a run in the order of the document writes. -/
theorem drawings_render (hformat : config.format = .dot)
    (hhost : host.Steady config view start directory answer) :
    ((document.render host config).run start).1.drawings =
      RegionReport.drawings
        (document.regions.map (document.steadyReport config directory answer)) := by
  rw [report_render hformat hhost]
  rfl

/-- **What the files hold after a run in some order**: what was written last. -/
theorem content_renderInOrder [DecidableEq φ] (hformat : config.format = .dot)
    (hhost : host.Steady config view start directory answer)
    (hperm : order.Perm document.regions.zipIdx) (file : φ) :
    view.content ((document.renderInOrder host config order).run start).2 file =
      (view.written (RegionReport.drawings ((order.map Prod.fst).map
        (document.steadyReport config directory answer))) file).or (view.content start file) := by
  have hall : document.RendersAll host config start (order.map Prod.fst) start _ _ :=
    rendersAll_mapM hformat (mem_regions_of_perm hperm) .start
  rw [← hall.reports_eq hhost]
  exact hall.content_of_steady hhost file

/-- A run that takes the regions up as they stand in the document is a run. -/
theorem run_renderInOrder_zipIdx :
    ((document.renderInOrder host config document.regions.zipIdx).run start).2 =
      ((document.render host config).run start).2 := by
  have hrun : ((document.renderInOrder host config document.regions.zipIdx).run start).2 =
      (((document.regions.zipIdx.map Prod.fst).mapM
        (document.renderRegion host config)).run start).2 := rfl
  rw [hrun, List.zipIdx_map_fst]
  rfl

/-- What is reported to be there was planned. -/
theorem plan_of_steadyReport {drawing : Drawing}
    (houtcome : (document.steadyReport config directory answer region).outcome = .ok drawing) :
    document.plan config region = .ok drawing := by
  rw [steadyReport] at houtcome
  cases hplan : document.plan config region with
  | error error => simp [hplan, bind, Except.bind] at houtcome
  | ok planned =>
      cases directory with
      | error fault => simp [hplan, bind, Except.bind, Except.mapError] at houtcome
      | ok _ =>
          cases hanswer : answer planned.path with
          | error fault => simp [hplan, hanswer, bind, Except.bind, Except.mapError] at houtcome
          | ok _ =>
              simpa [hplan, hanswer, bind, Except.bind, Except.mapError, pure, Except.pure]
                using houtcome

/-- What is planned is reported to be there, if the system grants it. -/
theorem steadyReport_eq_ok {drawing : Drawing} (hplan : document.plan config region = .ok drawing)
    (hanswer : answer drawing.path = .ok ()) :
    document.steadyReport config (.ok ()) answer region = ⟨region.id, .ok drawing⟩ := by
  simp [steadyReport, hplan, hanswer, bind, Except.bind, Except.mapError, pure, Except.pure]

/-- A diagram that a run writes is that of a region. -/
theorem exists_of_mem_drawings {drawing : Drawing}
    (hdrawing : drawing ∈ RegionReport.drawings
      (document.regions.map (document.steadyReport config directory answer))) :
    ∃ region ∈ document.regions,
      (document.steadyReport config directory answer region).outcome = .ok drawing := by
  obtain ⟨report, hreport, houtcome⟩ := RegionReport.mem_drawings_iff.1 hdrawing
  obtain ⟨region, hregion, rfl⟩ := List.mem_map.1 hreport
  exact ⟨region, hregion, houtcome⟩

/-- **Any diagram can be the last one**: some order leaves it in its file. -/
theorem exists_order_content_eq (hformat : config.format = .dot)
    (hhost : host.Steady config view start directory answer) {drawing : Drawing}
    (hdrawing : drawing ∈ RegionReport.drawings
      (document.regions.map (document.steadyReport config directory answer))) :
    ∃ order, order.Perm document.regions.zipIdx ∧
      view.content ((document.renderInOrder host config order).run start).2
        (view.file drawing.path) = some (Bytes.ofText drawing.text) := by
  classical
  obtain ⟨region, hregion, houtcome⟩ := exists_of_mem_drawings hdrawing
  rw [← List.zipIdx_map_fst 0 document.regions] at hregion
  obtain ⟨entry, hentry, rfl⟩ := List.mem_map.1 hregion
  -- Its region is moved behind all others.
  obtain ⟨before, after, hentries⟩ := List.append_of_mem hentry
  have hperm : (before ++ after ++ [entry]).Perm document.regions.zipIdx := by
    rw [hentries, List.append_assoc]
    exact (List.perm_append_singleton entry after).append_left before
  have hlast : RegionReport.drawings (((before ++ after ++ [entry]).map Prod.fst).map
      (document.steadyReport config directory answer)) =
        RegionReport.drawings (((before ++ after).map Prod.fst).map
          (document.steadyReport config directory answer)) ++ [drawing] := by
    simp only [RegionReport.drawings, List.map_append, List.filterMap_append, List.map_cons,
      List.map_nil, List.filterMap_cons, List.filterMap_nil, houtcome, Except.toOption]
  refine ⟨_, hperm, ?_⟩
  rw [content_renderInOrder hformat hhost hperm, hlast, FileView.written_concat, Option.some_or]

/-- **Where diagrams of one name have one text, the files do not show the order.** -/
theorem content_renderInOrder_of_agree (hformat : config.format = .dot)
    (hhost : host.Steady config view start directory answer)
    (hagree : ∀ one ∈ ((document.render host config).run start).1.drawings,
      ∀ two ∈ ((document.render host config).run start).1.drawings,
        one.region = two.region → one.text = two.text)
    (hperm : order.Perm document.regions.zipIdx) :
    view.content ((document.renderInOrder host config order).run start).2 =
      view.content ((document.render host config).run start).2 := by
  classical
  rw [drawings_render hformat hhost] at hagree
  have hmem : ∀ drawing, drawing ∈ RegionReport.drawings ((order.map Prod.fst).map
      (document.steadyReport config directory answer)) ↔
        drawing ∈ RegionReport.drawings
          (document.regions.map (document.steadyReport config directory answer)) := by
    have hregions := hperm.map Prod.fst
    rw [List.zipIdx_map_fst] at hregions
    exact fun drawing => ((hregions.map _).filterMap _).mem_iff
  funext file
  rw [← run_renderInOrder_zipIdx, content_renderInOrder hformat hhost hperm,
    content_renderInOrder hformat hhost (.refl _), List.zipIdx_map_fst]
  congr 1
  refine view.written_congr hmem fun one hone two htwo hfile => ?_
  -- Diagrams that go to one file bear one name.
  rw [hmem] at hone htwo
  obtain ⟨region, hregion, hone'⟩ := exists_of_mem_drawings hone
  obtain ⟨other, hother, htwo'⟩ := exists_of_mem_drawings htwo
  have hplan := plan_of_steadyReport hone'
  have hplan' := plan_of_steadyReport htwo'
  obtain ⟨hname, hgoes, -⟩ := drawing_of_plan hregion hplan
  obtain ⟨hname', hgoes', -⟩ := drawing_of_plan hother hplan'
  rw [hgoes, hgoes'] at hfile
  refine hagree one hone two htwo ?_
  rw [hname, hname']
  exact id_eq_of_plan hregion hother hplan hplan' (hhost.file_inj hfile)

/-- Where no name is repeated, a name has one diagram. -/
theorem eq_of_nodup_ids (hnodup : (document.regions.map (·.id)).Nodup) {one two : Drawing}
    (hone : one ∈ RegionReport.drawings
      (document.regions.map (document.steadyReport config directory answer)))
    (htwo : two ∈ RegionReport.drawings
      (document.regions.map (document.steadyReport config directory answer)))
    (hname : one.region = two.region) : one = two := by
  obtain ⟨region, hregion, hone⟩ := exists_of_mem_drawings hone
  obtain ⟨other, hother, htwo⟩ := exists_of_mem_drawings htwo
  rw [(drawing_of_plan hregion (plan_of_steadyReport hone)).1,
    (drawing_of_plan hother (plan_of_steadyReport htwo)).1] at hname
  obtain rfl := List.inj_on_of_nodup_map hnodup hregion hother hname
  rw [hone] at htwo
  exact Except.ok.inj htwo

/-- **Runs in another order.** In a system in which the whole answer depends on the path, the report
of a run is the same in every order. So are the files, if and only if diagrams that are reported
under one name have one text. -/
theorem renderInOrder_eq_render_iff (host : Host (StateM σ)) (config : Config) (document : Document)
    (view : FileView σ φ) (start : σ) (directory : Except SystemFault Unit)
    (answer : String → Except SystemFault Unit) (hformat : config.format = .dot)
    (hhost : host.Steady config view start directory answer) :
    (∀ order : List (Region × Nat), order.Perm document.regions.zipIdx →
      ((document.renderInOrder host config order).run start).1 =
        ((document.render host config).run start).1) ∧
    ((∀ order : List (Region × Nat), order.Perm document.regions.zipIdx →
      view.content ((document.renderInOrder host config order).run start).2 =
        view.content ((document.render host config).run start).2) ↔
      ∀ one ∈ ((document.render host config).run start).1.drawings,
        ∀ two ∈ ((document.render host config).run start).1.drawings,
          one.region = two.region → one.text = two.text) := by
  refine ⟨fun order hperm => ?_, fun hsame one hone two htwo hname => ?_,
    fun hagree order hperm => content_renderInOrder_of_agree hformat hhost hagree hperm⟩
  · rw [report_renderInOrder hformat hhost hperm, report_render hformat hhost]
  -- Each of the two diagrams is the last one in some order, and they go to one file.
  · rw [drawings_render hformat hhost] at hone htwo
    obtain ⟨order, hperm, hcontent⟩ := exists_order_content_eq hformat hhost hone
    obtain ⟨order', hperm', hcontent'⟩ := exists_order_content_eq hformat hhost htwo
    obtain ⟨region, hregion, hone'⟩ := exists_of_mem_drawings hone
    obtain ⟨other, hother, htwo'⟩ := exists_of_mem_drawings htwo
    obtain ⟨hid, hgoes, -⟩ := drawing_of_plan hregion (plan_of_steadyReport hone')
    obtain ⟨hid', hgoes', -⟩ := drawing_of_plan hother (plan_of_steadyReport htwo')
    have hpath : one.path = two.path := by rw [hgoes, hgoes', ← hid, ← hid', hname]
    rw [hsame order hperm] at hcontent
    rw [hsame order' hperm', ← hpath, hcontent] at hcontent'
    exact Bytes.ofText_injective (Option.some.inj hcontent')

/-- A document in which no name is repeated, but two regions share a path. -/
def distinctNames : Document :=
  ⟨"demo", ⟨false, 0⟩, [.ofCall "a/b" "first", .ofCall "a_b" "second", .ofCall "c" "third"]⟩

/-- In an empty working directory a document without repeated names does not show the order. -/
theorem renderInOrder_eq_render_iff_distinctNames :
    Config.dotInOut.format = .dot ∧
      FileSystem.host.Steady .dotInOut (FileSystem.viewFrom ["out", "work"]) FileSystem.empty
        (.ok ()) (FileSystem.empty.makeDirectories "out").1.answerAt ∧
      ∀ order : List (Region × Nat), order.Perm distinctNames.regions.zipIdx →
        ((distinctNames.renderInOrder FileSystem.host .dotInOut order).run FileSystem.empty).1 =
            ((distinctNames.render FileSystem.host .dotInOut).run FileSystem.empty).1 ∧
          ((distinctNames.renderInOrder FileSystem.host .dotInOut order).run
              FileSystem.empty).2.contentAt =
            ((distinctNames.render FileSystem.host .dotInOut).run
              FileSystem.empty).2.contentAt := by
  have hhost := FileSystem.steady_host_empty
  obtain ⟨hreport, hfiles⟩ := renderInOrder_eq_render_iff FileSystem.host .dotInOut distinctNames
    (FileSystem.viewFrom ["out", "work"]) FileSystem.empty (.ok ()) _ rfl hhost
  have hnodup : (distinctNames.regions.map (·.id)).Nodup := by decide
  have hagree := hfiles.2 fun one hone two htwo hname => by
    rw [drawings_render rfl hhost] at hone htwo
    rw [eq_of_nodup_ids hnodup hone htwo hname]
  exact ⟨rfl, hhost, fun order hperm => ⟨hreport order hperm, hagree order hperm⟩⟩

/-- A document in which a name is repeated for another region. -/
def repeatedName : Document :=
  ⟨"demo", ⟨false, 0⟩, [.ofCall "foo" "bar", .ofCall "foo" "baz"]⟩

/-- The document with its regions exchanged. -/
def repeatedNameExchanged : Document :=
  { repeatedName with regions := repeatedName.regions.reverse }

/-- The diagram of a region of the repeated name. -/
def repeatedDrawing (callee : String) : Drawing :=
  repeatedName.drawing .dotInOut (.ofCall "foo" callee)
    (.ofGrove "foo" (.plant "foo" (.plant callee .bare .bare) .bare))

/-- What is planned for a region of the repeated name does not depend on the order of the
regions. -/
theorem plan_repeatedName (callee : String) (hcallee : callee = "bar" ∨ callee = "baz") :
    repeatedName.plan .dotInOut (.ofCall "foo" callee) = .ok (repeatedDrawing callee) ∧
      repeatedNameExchanged.plan .dotInOut (.ofCall "foo" callee) =
        .ok (repeatedDrawing callee) := by
  obtain rfl | rfl := hcallee <;>
    exact ⟨plan_eq_ok (by simp [repeatedName]) (by decide +kernel) (by cbv),
      plan_eq_ok (by simp [repeatedNameExchanged, repeatedName]) (by decide +kernel) (by cbv)⟩

/-- Whichever region of the repeated name is taken up last, its diagram stays. -/
theorem content_renderInOrder_repeatedName {callee other : String} {order : List (Region × Nat)}
    (hcallee : callee = "bar" ∨ callee = "baz") (hother : other = "bar" ∨ other = "baz")
    (hperm : order.Perm repeatedName.regions.zipIdx)
    (horder : order.map Prod.fst = [.ofCall "foo" other, .ofCall "foo" callee]) :
    ((repeatedName.renderInOrder FileSystem.host .dotInOut order).run
        FileSystem.empty).2.contentAt ["foo.callgraph.dot", "out", "work"] =
      some (Bytes.ofText (repeatedDrawing callee).text) := by
  have hanswer : (FileSystem.empty.makeDirectories "out").1.answerAt
      (Config.dotInOut.diagramPath "foo") = .ok () := by decide +kernel
  have hfile : (FileSystem.viewFrom ["out", "work"]).file (Config.dotInOut.diagramPath "foo") =
      ["foo.callgraph.dot", "out", "work"] := by decide +kernel
  have hreport : ∀ callee, callee = "bar" ∨ callee = "baz" →
      repeatedName.steadyReport .dotInOut (.ok ())
          (FileSystem.empty.makeDirectories "out").1.answerAt (.ofCall "foo" callee) =
        ⟨"foo", .ok (repeatedDrawing callee)⟩ := fun callee hcallee =>
    steadyReport_eq_ok (plan_repeatedName callee hcallee).1 hanswer
  have hcontent := content_renderInOrder rfl FileSystem.steady_host_empty hperm
    ["foo.callgraph.dot", "out", "work"]
  have hwritten : (FileSystem.viewFrom ["out", "work"]).written
      [repeatedDrawing other, repeatedDrawing callee]
        ((FileSystem.viewFrom ["out", "work"]).file (Config.dotInOut.diagramPath "foo")) =
          some (Bytes.ofText (repeatedDrawing callee).text) :=
    FileView.written_concat _ [repeatedDrawing other] (repeatedDrawing callee)
  rw [horder, List.map_cons, List.map_cons, List.map_nil, hreport callee hcallee,
    hreport other hother, RegionReport.drawings_cons_ok, RegionReport.drawings_cons_ok, ← hfile,
    show RegionReport.drawings [] = [] from rfl, hwritten, Option.some_or] at hcontent
  rw [← hfile]
  exact hcontent

/-- **The order shows where a name is repeated for another region**: taking up the last region first
leaves the diagram of the first one, which the run in the order of the document overwrites. What it
leaves is what a run over the exchanged document leaves. -/
theorem content_renderInOrder_repeatedName_ne :
    repeatedName.regions.zipIdx.reverse.Perm repeatedName.regions.zipIdx ∧
      ((repeatedName.renderInOrder FileSystem.host .dotInOut
          repeatedName.regions.zipIdx.reverse).run FileSystem.empty).2 =
        ((repeatedNameExchanged.render FileSystem.host .dotInOut).run FileSystem.empty).2 ∧
      ((repeatedName.renderInOrder FileSystem.host .dotInOut
          repeatedName.regions.zipIdx.reverse).run FileSystem.empty).2.contentAt
            ["foo.callgraph.dot", "out", "work"] ≠
        ((repeatedName.render FileSystem.host .dotInOut).run FileSystem.empty).2.contentAt
          ["foo.callgraph.dot", "out", "work"] := by
  have hperm := List.reverse_perm repeatedName.regions.zipIdx
  obtain ⟨hbar, hbar'⟩ := plan_repeatedName "bar" (.inl rfl)
  obtain ⟨hbaz, hbaz'⟩ := plan_repeatedName "baz" (.inr rfl)
  refine ⟨hperm, ?_, fun hsame => ?_⟩
  · have hrun : ((repeatedName.renderInOrder FileSystem.host .dotInOut
        repeatedName.regions.zipIdx.reverse).run FileSystem.empty).2 =
          (([.ofCall "foo" "baz", .ofCall "foo" "bar"].mapM
            (repeatedName.renderRegion FileSystem.host .dotInOut)).run FileSystem.empty).2 := rfl
    have hrun' : ((repeatedNameExchanged.render FileSystem.host .dotInOut).run
        FileSystem.empty).2 =
          (([.ofCall "foo" "baz", .ofCall "foo" "bar"].mapM
            (repeatedNameExchanged.renderRegion FileSystem.host .dotInOut)).run
              FileSystem.empty).2 := rfl
    rw [hrun, hrun']
    simp only [List.mapM_cons, List.mapM_nil, renderRegion, hbar, hbar', hbaz, hbaz']
  · rw [← run_renderInOrder_zipIdx,
      content_renderInOrder_repeatedName (.inl rfl) (.inr rfl) hperm rfl,
      content_renderInOrder_repeatedName (.inr rfl) (.inl rfl) (.refl _) rfl] at hsame
    exact absurd (Bytes.ofText_injective (Option.some.inj hsame)) (by decide +kernel)

end Document

end CallForest
