import CallForest.Proofs.Render.Ownership
import CallForest.Proofs.Render.Presence

/-! # What a run asks for

Of the regions of a document only those are taken to the system that may have their files and whose
call graphs are acyclic. Any other one is refused before anything is asked for: its report is made,
and the system is as it was. To see this, a host is made to keep a record of its requests.

* `Request`, `Host.recorded`: the requests of a run, and a host that keeps a record of them.
* `RegionReport.IsRefused`: reports on regions that are refused.
* `Document.Asks`, `Document.AsksAll`: what rendering a region asks for, and rendering some of them.
* `Document.AsksAsPlanned`: what the requests of a run have to do with its document.
* `Document.asksAsPlanned_render`: refused regions ask for nothing, in a run in any order. -/

namespace CallForest

/-! ### Records -/

/-- A **request** of a run. -/
inductive Request where
  /-- A variable of the environment is to be looked up. -/
  | environment (name : String)
  /-- A file is to be read. -/
  | read (path : String)
  /-- A directory is to be made. -/
  | makeDirectories (path : String)
  /-- A text is to be written to a file. -/
  | write (path text : String)
  /-- A program is to be launched with an input. -/
  | launch (command : LayoutCommand) (input : String)
  deriving DecidableEq, Repr

/-- A host that **keeps a record** of its requests, and answers them as before. -/
def Host.recorded {m : Type → Type} [Monad m] (host : Host m) :
    Host (StateT (List Request) m) where
  environment name := fun log => do
    return (← host.environment name, log ++ [.environment name])
  read path := fun log => do return (← host.read path, log ++ [.read path])
  makeDirectories path := fun log => do
    return (← host.makeDirectories path, log ++ [.makeDirectories path])
  write path text := fun log => do return (← host.write path text, log ++ [.write path text])
  launch command input := fun log => do
    return (← host.launch command input, log ++ [.launch command input])

/-- A report on a region that is **refused**: its call graph has a cycle, or another region has its
file. -/
def RegionReport.IsRefused (report : RegionReport) : Prop :=
  (∃ error, report.outcome = .error (.cycle error)) ∨
    ∃ region path other, report.outcome = .error (.pathCollision region path other)

variable {σ : Type} {host : Host (StateM σ)} {config : Config} {document : Document}

/-! ### Publishing a diagram -/

namespace Drawing

variable {drawing : Drawing} {state : σ}

/-- What becomes of a diagram once the layout program has been launched. -/
def laidOut (config : Config) (drawing : Drawing) :
    Except SystemFault ProcessReport → Except RenderError Unit
  | .error fault => .error (.spawn drawing.region config.dotProgram fault)
  | .ok done =>
    if done.ending.isSuccess then .ok ()
    else .error (.layout drawing.region config.dotProgram drawing.path done.ending
      (Blank.trim (Utf8.decodeLossy done.errors)))

/-- Laying a diagram out is one request. -/
theorem layOut_eq {m : Type → Type} [Monad m] (host : Host m) (config : Config)
    (drawing : Drawing) :
    drawing.layOut host config = do
      return drawing.laidOut config
        (← host.launch (.of config.dotProgram config.format drawing.path) drawing.text) := by
  refine bind_congr fun answer => ?_
  cases answer with
  | error fault => rfl
  | ok done => exact (apply_ite pure _ _ _).symm

/-- **Publishing a diagram asks for the output directory first.** That this is recorded changes
neither the outcome nor the system. -/
theorem run_publish_recorded (host : Host (StateM σ)) (config : Config) (drawing : Drawing)
    (log : List Request) (state : σ) :
    ∃ more, ((drawing.publish host.recorded config).run log).run state =
      ((((drawing.publish host config).run state).1,
          log ++ .makeDirectories config.outputDir :: more),
        ((drawing.publish host config).run state).2) := by
  have hrecorded : ((host.recorded.makeDirectories config.outputDir).run log).run state =
      ((host.directoryAnswer config state, log ++ [.makeDirectories config.outputDir]),
        host.withDirectory config state) := rfl
  have hdirectory : (host.makeDirectories config.outputDir).run state =
      (host.directoryAnswer config state, host.withDirectory config state) := rfl
  rw [publish, publish, StateT.run_bind, StateT.run_bind, StateT.run_bind, hrecorded, hdirectory]
  cases hanswer : host.directoryAnswer config state with
  | error fault => exact ⟨[], rfl⟩
  | ok _ =>
      -- One more request follows, to the layout program or to write the file.
      cases hlayout : config.format.needsLayout with
      | true =>
          simp only [if_true, layOut_eq]
          exact ⟨_, congrArg (fun log => ((_, log), _)) (List.append_assoc _ _ _)⟩
      | false =>
          simp only [Bool.false_eq_true, if_false]
          exact ⟨_, congrArg (fun log => ((_, log), _)) (List.append_assoc _ _ _)⟩

/-- A diagram that cannot be published is **not refused as a plan is**. -/
theorem not_isRefused_publish (host : Host (StateM σ)) (config : Config) (drawing : Drawing)
    (id : String) (state : σ) :
    ¬ RegionReport.IsRefused
      ⟨id, ((drawing.publish host config).run state).1.map fun _ => drawing⟩ := by
  have hdirectory : (host.makeDirectories config.outputDir).run state =
      (host.directoryAnswer config state, host.withDirectory config state) := rfl
  rw [publish, StateT.run_bind, hdirectory]
  cases hanswer : host.directoryAnswer config state with
  | error fault => rintro (⟨_, ⟨⟩⟩ | ⟨_, _, _, ⟨⟩⟩)
  | ok _ =>
      cases hlayout : config.format.needsLayout with
      | true =>
          simp only [if_true, layOut_eq]
          show ¬ RegionReport.IsRefused ⟨id, (drawing.laidOut config
            ((host.launch _ drawing.text).run _).1).map fun _ => drawing⟩
          generalize ((host.launch _ drawing.text).run _).1 = answer
          cases answer with
          | error fault => rintro (⟨_, ⟨⟩⟩ | ⟨_, _, _, ⟨⟩⟩)
          | ok done =>
              rw [laidOut]
              split <;> rintro (⟨_, ⟨⟩⟩ | ⟨_, _, _, ⟨⟩⟩)
      | false =>
          simp only [Bool.false_eq_true, if_false]
          show ¬ RegionReport.IsRefused ⟨id,
            (((host.write drawing.path drawing.text).run _).1.mapError
              (.write drawing.region drawing.path)).map fun _ => drawing⟩
          generalize ((host.write drawing.path drawing.text).run _).1 = answer
          cases answer <;> rintro (⟨_, ⟨⟩⟩ | ⟨_, _, _, ⟨⟩⟩)

end Drawing

namespace Document

variable {region : Region} {regions : List Region} {report : RegionReport}
  {reports : List RegionReport} {requests : List Request} {state next final : σ}

/-! ### Rendering a region -/

/-- What **rendering a region asks for**: nothing if no diagram can be planned for it, and else the
output directory, and then more. -/
inductive Asks (host : Host (StateM σ)) (config : Config) (document : Document) (region : Region)
    (state : σ) : RegionReport → List Request → σ → Prop where
  /-- No diagram can be planned. -/
  | refused {error : RenderError} (hplan : document.plan config region = .error error) :
      Asks host config document region state ⟨region.id, .error error⟩ [] state
  /-- A diagram is planned, and taken to the system. -/
  | attempted {drawing : Drawing} {report : RegionReport} {more : List Request} {next : σ}
      (hplan : document.plan config region = .ok drawing) (hreport : ¬ report.IsRefused) :
      Asks host config document region state report (.makeDirectories config.outputDir :: more) next

/-- A region that is rendered by a host with a record. -/
theorem asks_renderRegion (host : Host (StateM σ)) (config : Config) (document : Document)
    (region : Region) (log : List Request) (state : σ) :
    ∃ requests, ((document.renderRegion host.recorded config region).run log).run state =
        ((((document.renderRegion host config region).run state).1, log ++ requests),
          ((document.renderRegion host config region).run state).2) ∧
      document.Asks host config region state
        ((document.renderRegion host config region).run state).1 requests
        ((document.renderRegion host config region).run state).2 := by
  cases hplan : document.plan config region with
  | error error =>
      refine ⟨[], ?_, ?_⟩
      · simp only [renderRegion, hplan, List.append_nil]
        rfl
      · simp only [renderRegion, hplan]
        exact .refused hplan
  | ok drawing =>
      obtain ⟨more, hmore⟩ := drawing.run_publish_recorded host config log state
      refine ⟨.makeDirectories config.outputDir :: more, ?_, ?_⟩
      · simp only [renderRegion, hplan, StateT.run_bind, hmore]
        rfl
      · simp only [renderRegion, hplan]
        exact .attempted hplan (drawing.not_isRefused_publish host config region.id state)

/-- A region that is refused asks for nothing, and leaves the system as it was. -/
theorem Asks.eq_of_isRefused
    (hasks : document.Asks host config region state report requests next)
    (hreport : report.IsRefused) : requests = [] ∧ next = state := by
  cases hasks with
  | refused hplan => exact ⟨rfl, rfl⟩
  | attempted hplan hnot => exact absurd hreport hnot

/-- The output directory is asked for where a diagram is planned. -/
theorem Asks.makeDirectories_mem_iff
    (hasks : document.Asks host config region state report requests next) :
    .makeDirectories config.outputDir ∈ requests ↔
      ∃ drawing, document.plan config region = .ok drawing := by
  cases hasks with
  | refused hplan => simp [hplan]
  | attempted hplan hnot => simp [hplan]

/-! ### Rendering some regions -/

/-- What **rendering some regions asks for**, one after the other. -/
inductive AsksAll (host : Host (StateM σ)) (config : Config) (document : Document) :
    List Region → σ → List RegionReport → List Request → σ → Prop where
  /-- There is nothing to render. -/
  | nil {state : σ} : AsksAll host config document [] state [] [] state
  /-- A region is rendered, and then the others. -/
  | cons {region : Region} {regions : List Region} {report : RegionReport}
      {reports : List RegionReport} {requests more : List Request} {state next final : σ}
      (hfirst : document.Asks host config region state report requests next)
      (hrest : AsksAll host config document regions next reports more final) :
      AsksAll host config document (region :: regions) state (report :: reports)
        (requests ++ more) final

/-- Regions that are rendered by a host with a record. -/
theorem asksAll_mapM (host : Host (StateM σ)) (config : Config) (document : Document)
    (regions : List Region) (log : List Request) (state : σ) :
    ∃ requests, ((regions.mapM (document.renderRegion host.recorded config)).run log).run state =
        ((((regions.mapM (document.renderRegion host config)).run state).1, log ++ requests),
          ((regions.mapM (document.renderRegion host config)).run state).2) ∧
      document.AsksAll host config regions state
        ((regions.mapM (document.renderRegion host config)).run state).1 requests
        ((regions.mapM (document.renderRegion host config)).run state).2 := by
  induction regions generalizing log state with
  | nil => exact ⟨[], by rw [List.append_nil]; rfl, .nil⟩
  | cons region regions ih =>
      obtain ⟨requests, hrun, hfirst⟩ := asks_renderRegion host config document region log state
      obtain ⟨more, hmore, hrest⟩ := ih (log ++ requests)
        ((document.renderRegion host config region).run state).2
      refine ⟨requests ++ more, ?_, ?_⟩
      · rw [List.mapM_cons, List.mapM_cons, StateT.run_bind, StateT.run_bind, hrun]
        show (((regions.mapM (document.renderRegion host.recorded config) >>= _).run
          (log ++ requests)).run _) = _
        rw [StateT.run_bind, StateT.run_bind, hmore, List.append_assoc]
        rfl
      · rw [List.mapM_cons]
        exact .cons hfirst hrest

namespace AsksAll

/-- There is a report on every region. -/
theorem length_eq (hall : document.AsksAll host config regions state reports requests final) :
    reports.length = regions.length := by
  induction hall with
  | nil => rfl
  | cons hfirst hrest ih => exact congrArg (· + 1) ih

/-- **Where every region is refused, nothing is asked for**, and the system is as it was. -/
theorem eq_of_isRefused (hall : document.AsksAll host config regions state reports requests final)
    (hreports : ∀ report ∈ reports, report.IsRefused) : requests = [] ∧ final = state := by
  induction hall with
  | nil => exact ⟨rfl, rfl⟩
  | cons hfirst hrest ih =>
      obtain ⟨hreport, hreports⟩ := List.forall_mem_cons.1 hreports
      obtain ⟨rfl, rfl⟩ := hfirst.eq_of_isRefused hreport
      exact ih hreports

/-- **The output directory is asked for** where a diagram is planned for some region. -/
theorem makeDirectories_mem_iff
    (hall : document.AsksAll host config regions state reports requests final) :
    .makeDirectories config.outputDir ∈ requests ↔
      ∃ region ∈ regions, ∃ drawing, document.plan config region = .ok drawing := by
  induction hall with
  | nil => simp
  | cons hfirst hrest ih =>
      rw [List.mem_append, hfirst.makeDirectories_mem_iff, ih]
      simp only [List.mem_cons, exists_eq_or_imp]

end AsksAll

/-! ### Plans -/

/-- **A diagram is planned** for the regions whose files belong to nobody else and whose call graphs
are acyclic. -/
theorem exists_plan_eq_ok_iff :
    (∃ drawing, document.plan config region = .ok drawing) ↔
      document.owner? config region.id = none ∧
        (region.callGraph config.graphOptions).Acyclic := by
  have hgraph := region.wellFormed_callGraph config.graphOptions
  rw [plan]
  cases howner : document.owner? config region.id with
  | some other => simp
  | none =>
      cases hexpand : (region.callGraph config.graphOptions).expand with
      | error error => simp [hexpand, hgraph.not_acyclic_of_expand_eq_error hexpand]
      | ok forest => simp [hexpand, hgraph.acyclic_of_expand_eq_ok hexpand]

/-- So it is for the positions of a document. -/
theorem exists_plan_iff_pathOwners :
    (∃ region ∈ document.regions, ∃ drawing, document.plan config region = .ok drawing) ↔
      ∃ (position : ℕ) (region : Region), document.regions[position]? = some region ∧
        (Diagram.pathOwners config.outputDir config.format.name document)[position]? = some none ∧
          (region.callGraph config.graphOptions).Acyclic := by
  simp only [Diagram.pathOwners_eq_map_owner?, List.getElem?_map, exists_plan_eq_ok_iff,
    List.mem_iff_getElem?]
  constructor
  · rintro ⟨region, ⟨position, hregion⟩, howner, hacyclic⟩
    exact ⟨position, region, hregion, by rw [hregion, Option.map_some, howner], hacyclic⟩
  · rintro ⟨position, region, hregion, howner, hacyclic⟩
    rw [hregion, Option.map_some, Option.some_inj] at howner
    exact ⟨region, ⟨position, hregion⟩, howner, hacyclic⟩

/-! ### Runs -/

/-- **What the requests of a run have to do with its document.** -/
structure AsksAsPlanned (config : Config) (document : Document) (start : σ) (report : RunReport)
    (requests : List Request) (final : σ) : Prop where
  /-- Where every region is refused, nothing is asked for, and the system is as it was. -/
  eq_of_isRefused : (∀ region ∈ report.regions, region.IsRefused) → requests = [] ∧ final = start
  /-- The output directory is asked for where the file of some region belongs to nobody else, and
  its call graph is acyclic. -/
  makeDirectories_mem_iff : .makeDirectories config.outputDir ∈ requests ↔
    ∃ (position : ℕ) (region : Region), document.regions[position]? = some region ∧
      (Diagram.pathOwners config.outputDir config.format.name document)[position]? = some none ∧
        (region.callGraph config.graphOptions).Acyclic

/-- A run reports on every region that it takes up. -/
theorem perm_regions_of_perm (host : Host (StateM σ)) (config : Config) (start : σ)
    {order : List (Region × Nat)} (hperm : order.Perm document.regions.zipIdx) :
    ((document.renderInOrder host config order).run start).1.regions.Perm
      (document.reportsInOrder host config order start) := by
  have hpositions := perm_positions hperm
  obtain ⟨requests, -, hall⟩ := asksAll_mapM host config document (order.map Prod.fst) [] start
  have hlength : (order.map Prod.snd).length =
      (document.reportsInOrder host config order start).length := by
    rw [reportsInOrder, hall.length_eq, List.length_map, List.length_map]
  rw [regions_renderInOrder]
  refine (hpositions.symm.filterMap _).trans (.of_eq ?_)
  exact filterMap_lookup_zip (hpositions.nodup_iff.2 List.nodup_range) hlength

/-- **Refused regions ask for nothing.** Whatever the document, the configuration and the host, a
record of the requests changes neither reports nor the system. A region that is refused asks for
nothing, and leaves the system as it was; so does a run in which every region is refused. A run asks
for the output directory when there is a region whose file belongs to nobody else and whose call
graph is acyclic. All this holds of the run in the order of the document, and of runs in any other
order. -/
theorem asksAsPlanned_render (host : Host (StateM σ)) (config : Config) (document : Document) :
    (∀ region state, ∃ requests,
      ((document.renderRegion host.recorded config region).run []).run state =
        ((((document.renderRegion host config region).run state).1, requests),
          ((document.renderRegion host config region).run state).2) ∧
      (((document.renderRegion host config region).run state).1.IsRefused →
        requests = [] ∧ ((document.renderRegion host config region).run state).2 = state)) ∧
    (∀ start, ∃ requests,
      ((document.render host.recorded config).run []).run start =
        ((((document.render host config).run start).1, requests),
          ((document.render host config).run start).2) ∧
      document.AsksAsPlanned config start ((document.render host config).run start).1 requests
        ((document.render host config).run start).2) ∧
    ∀ order : List (Region × Nat), order.Perm document.regions.zipIdx → ∀ start, ∃ requests,
      ((document.renderInOrder host.recorded config order).run []).run start =
        ((((document.renderInOrder host config order).run start).1, requests),
          ((document.renderInOrder host config order).run start).2) ∧
      document.AsksAsPlanned config start ((document.renderInOrder host config order).run start).1
        requests ((document.renderInOrder host config order).run start).2 := by
  refine ⟨fun region state => ?_, fun start => ?_, fun order hperm start => ?_⟩
  · obtain ⟨requests, hrun, hasks⟩ := asks_renderRegion host config document region [] state
    exact ⟨requests, hrun, hasks.eq_of_isRefused⟩
  · obtain ⟨requests, hrun, hall⟩ := asksAll_mapM host config document document.regions [] start
    refine ⟨requests, ?_, hall.eq_of_isRefused, ?_⟩
    · rw [render, StateT.run_bind, StateT.run_bind, hrun]
      rfl
    · rw [hall.makeDirectories_mem_iff, exists_plan_iff_pathOwners]
  · obtain ⟨requests, hrun, hall⟩ :=
      asksAll_mapM host config document (order.map Prod.fst) [] start
    refine ⟨requests, ?_, fun hrefused => hall.eq_of_isRefused fun report hreport => ?_, ?_⟩
    · rw [renderInOrder, StateT.run_bind, StateT.run_bind, hrun]
      rfl
    · exact hrefused report ((perm_regions_of_perm host config start hperm).mem_iff.2 hreport)
    · have hregions : ∀ region, region ∈ order.map Prod.fst ↔ region ∈ document.regions := by
        intro region
        rw [(hperm.map Prod.fst).mem_iff, List.zipIdx_map_fst]
      simp only [hall.makeDirectories_mem_iff, ← exists_plan_iff_pathOwners, hregions]

/-- A document of a region that calls itself, and of one that goes to the same file. -/
def allRefused : Document :=
  ⟨"demo", ⟨false, 0⟩, [.ofCall "a/b" "a/b", .ofCall "a_b" "first"]⟩

/-- The first region has a cycle, and the second one does not have its file. -/
theorem plan_allRefused :
    allRefused.plan .standard (.ofCall "a/b" "a/b") = .error (.cycle ⟨"a/b", "a/b"⟩) ∧
      allRefused.plan .standard (.ofCall "a_b" "first") =
        .error (.pathCollision "a_b" "callgraphs/a_b.callgraph.svg" "a/b") := by
  have howner : allRefused.owner? .standard (Region.ofCall "a/b" "a/b").id = none := by
    decide +kernel
  have hexpand : ((Region.ofCall "a/b" "a/b").callGraph Config.standard.graphOptions).expand =
      .error ⟨"a/b", "a/b"⟩ := by cbv
  refine ⟨?_, by decide +kernel⟩
  simp only [plan, howner, hexpand]

/-- Taken up in the other order, too, the two regions leave the file system as it was. -/
theorem asksAsPlanned_render_allRefused :
    allRefused.regions.zipIdx.reverse.Perm allRefused.regions.zipIdx ∧
      (∀ report ∈ ((allRefused.renderInOrder FileSystem.host .standard
        allRefused.regions.zipIdx.reverse).run FileSystem.empty).1.regions, report.IsRefused) ∧
      ((allRefused.renderInOrder FileSystem.host .standard
        allRefused.regions.zipIdx.reverse).run FileSystem.empty).2 = FileSystem.empty := by
  obtain ⟨hcycle, hcollision⟩ := plan_allRefused
  have hperm := List.reverse_perm allRefused.regions.zipIdx
  obtain ⟨-, -, horders⟩ := asksAsPlanned_render FileSystem.host .standard allRefused
  obtain ⟨requests, -, hplanned⟩ := horders _ hperm FileSystem.empty
  have hreports : ((allRefused.renderInOrder FileSystem.host .standard
      allRefused.regions.zipIdx.reverse).run FileSystem.empty).1.regions =
        [⟨"a/b", .error (.cycle ⟨"a/b", "a/b"⟩)⟩,
          ⟨"a_b", .error (.pathCollision "a_b" "callgraphs/a_b.callgraph.svg" "a/b")⟩] := by
    have hrun : ((allRefused.renderInOrder FileSystem.host .standard
        allRefused.regions.zipIdx.reverse).run FileSystem.empty).1.regions =
      (List.range 2).filterMap (([1, 0].zip
        (([.ofCall "a_b" "first", .ofCall "a/b" "a/b"].mapM
          (allRefused.renderRegion FileSystem.host .standard)).run FileSystem.empty).1).lookup ·) :=
      rfl
    rw [hrun]
    simp only [List.mapM_cons, List.mapM_nil, renderRegion, hcycle, hcollision]
    rfl
  have hrefused : ∀ report ∈ ((allRefused.renderInOrder FileSystem.host .standard
      allRefused.regions.zipIdx.reverse).run FileSystem.empty).1.regions, report.IsRefused := by
    rw [hreports]
    simp [RegionReport.IsRefused]
  exact ⟨hperm, hrefused, (hplanned.eq_of_isRefused hrefused).2⟩

end Document

end CallForest
