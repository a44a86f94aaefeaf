import CallForest.Proofs.Analysis.Drawing
import CallForest.Proofs.Forest.Attributes
import CallForest.Render.Run

/-! # Plans of diagrams

What becomes of a region is planned before anything is asked of the system. Its file belongs to the
first region of the document whose diagram goes there; another region of that name may share it, a
region of another name may not. A region that may have its file gets a diagram unless its call graph
is cyclic.

* `Document.firstAt`: the region that a file belongs to.
* `Document.Plans`, `Document.plans_plan`: the outcomes of a plan. -/

namespace CallForest

namespace Document

variable {config : Config} {document : Document} {region other : Region}

/-! ### Files and their regions -/

/-- The first region of a document whose diagram goes to the file of a region's diagram. -/
def firstAt (config : Config) (document : Document) (region : Region) : Region :=
  (document.regions.find? fun other =>
    config.diagramPath other.id = config.diagramPath region.id).getD region

/-- Regions whose diagrams go to one file agree on the first of them. -/
theorem firstAt_congr (hother : other ∈ document.regions)
    (hpath : config.diagramPath region.id = config.diagramPath other.id) :
    document.firstAt config region = document.firstAt config other := by
  have hfound : (document.regions.find? fun one =>
      config.diagramPath one.id = config.diagramPath other.id).isSome :=
    List.find?_isSome.2 ⟨other, hother, by simp⟩
  obtain ⟨first, hfirst⟩ := Option.isSome_iff_exists.1 hfound
  rw [firstAt, firstAt, hpath, hfirst, Option.getD_some, Option.getD_some]

/-- The owner of a file is looked up among its regions, of which the first one counts. -/
theorem lookup_targets (path : String) :
    (document.targets config).lookup path =
      (document.regions.find? fun other => config.diagramPath other.id = path).map (·.id) := by
  rw [targets]
  induction document.regions with
  | nil => rfl
  | cons first rest ih =>
      by_cases hpath : config.diagramPath first.id = path
      · simp [hpath]
      · have hkey : (path == config.diagramPath first.id) = false :=
          beq_eq_false_iff_ne.2 (Ne.symm hpath)
        rw [List.map_cons, List.lookup_cons, List.find?_cons, ih]
        simp only [hkey, hpath, decide_false]

/-- **The owner of a region's file** is the first region there, unless it has the same name. -/
theorem owner?_eq (hregion : region ∈ document.regions) :
    document.owner? config region.id =
      if (document.firstAt config region).id = region.id then none
      else some (document.firstAt config region).id := by
  have hfound : (document.regions.find? fun one =>
      config.diagramPath one.id = config.diagramPath region.id).isSome :=
    List.find?_isSome.2 ⟨region, hregion, by simp⟩
  obtain ⟨first, hfirst⟩ := Option.isSome_iff_exists.1 hfound
  rw [owner?, lookup_targets, firstAt, hfirst, Option.map_some, Option.getD_some]
  by_cases hsame : first.id = region.id <;> simp [hsame]

/-! ### Outcomes -/

/-- The diagram of a region whose call graph expands into a forest. -/
def drawing (config : Config) (document : Document) (region : Region) (forest : Forest) : Drawing :=
  ⟨region.id, config.diagramPath region.id,
    (forest.applyAttributes (region.callGraph config.graphOptions)).dotText
      (region.caption document.crateName),
    forest.size, forest.edgeCount⟩

/-- **The outcomes of a plan**, with what each of them says about the region. -/
inductive Plans (config : Config) (document : Document) (region : Region) :
    Except RenderError Drawing → Prop where
  /-- The file belongs to a region of another name. -/
  | collision (hfirst : (document.firstAt config region).id ≠ region.id) :
      Plans config document region
        (.error (.pathCollision region.id (config.diagramPath region.id)
          (document.firstAt config region).id))
  /-- The call graph does not expand. -/
  | cycle {error : CycleError} (hfirst : (document.firstAt config region).id = region.id)
      (herror : (region.callGraph config.graphOptions).expand = .error error) :
      Plans config document region (.error (.cycle error))
  /-- The call graph expands. -/
  | drawing {forest : Forest} (hfirst : (document.firstAt config region).id = region.id)
      (hforest : (region.callGraph config.graphOptions).expand = .ok forest) :
      Plans config document region (.ok (document.drawing config region forest))

/-- A region that has its file and whose call graph expands gets its diagram. -/
theorem plan_eq_ok {forest : Forest} (hregion : region ∈ document.regions)
    (hfirst : (document.firstAt config region).id = region.id)
    (hforest : (region.callGraph config.graphOptions).expand = .ok forest) :
    document.plan config region = .ok (document.drawing config region forest) := by
  have howner : document.owner? config region.id = none := by rw [owner?_eq hregion, if_pos hfirst]
  simp only [plan, howner, hforest, Forest.size_applyAttributes, Forest.edgeCount_applyAttributes,
    drawing]

/-- **A plan has one of the three outcomes.** -/
theorem plans_plan (hregion : region ∈ document.regions) :
    document.Plans config region (document.plan config region) := by
  by_cases hfirst : (document.firstAt config region).id = region.id
  · have howner : document.owner? config region.id = none := by
      rw [owner?_eq hregion, if_pos hfirst]
    cases hexpand : (region.callGraph config.graphOptions).expand with
    | error error =>
        have hplan : document.plan config region = .error (.cycle error) := by
          simp only [plan, howner, hexpand]
        exact hplan ▸ .cycle hfirst hexpand
    | ok forest => exact plan_eq_ok hregion hfirst hexpand ▸ .drawing hfirst hexpand
  · have howner : document.owner? config region.id = some (document.firstAt config region).id := by
      rw [owner?_eq hregion, if_neg hfirst]
    have hplan : document.plan config region = .error (.pathCollision region.id
        (config.diagramPath region.id) (document.firstAt config region).id) := by
      simp only [plan, howner]
    exact hplan ▸ .collision hfirst

/-- A region with a plan has its file, and its call graph expands. -/
theorem exists_forest_of_plan {drawing : Drawing} (hregion : region ∈ document.regions)
    (hplan : document.plan config region = .ok drawing) :
    (document.firstAt config region).id = region.id ∧
      ∃ forest, (region.callGraph config.graphOptions).expand = .ok forest ∧
        drawing = document.drawing config region forest := by
  have hplans : document.Plans config region _ := plans_plan hregion
  rw [hplan] at hplans
  cases hplans with
  | drawing hfirst hforest => exact ⟨hfirst, _, hforest, rfl⟩

/-- What is planned for a region bears its name and goes to its file. -/
theorem drawing_of_plan {drawing : Drawing} (hregion : region ∈ document.regions)
    (hplan : document.plan config region = .ok drawing) :
    drawing.region = region.id ∧ drawing.path = config.diagramPath region.id ∧
      (document.firstAt config region).id = region.id := by
  obtain ⟨hfirst, forest, -, rfl⟩ := exists_forest_of_plan hregion hplan
  exact ⟨rfl, rfl, hfirst⟩

/-- **Only regions of one name are planned for one file.** -/
theorem id_eq_of_plan {one two : Drawing} (hregion : region ∈ document.regions)
    (hother : other ∈ document.regions) (hone : document.plan config region = .ok one)
    (htwo : document.plan config other = .ok two)
    (hpath : config.diagramPath region.id = config.diagramPath other.id) :
    region.id = other.id := by
  obtain ⟨-, -, hfirst⟩ := drawing_of_plan hregion hone
  obtain ⟨-, -, hfirst'⟩ := drawing_of_plan hother htwo
  rw [← hfirst, ← hfirst', firstAt_congr hother hpath]

end Document

end CallForest
