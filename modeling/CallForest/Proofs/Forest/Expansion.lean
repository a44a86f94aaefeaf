import CallForest.Proofs.Forest.Unfolding

/-! # Expansion and cycles

A call graph expands exactly when it is acyclic. What is reported otherwise is a function that
closes a walk from a root, or else the first function that no root reaches; the latter hangs below
a cycle, but need not be on one.

* `CallGraph.Expands`, `CallGraph.WellFormed.expands_expand`: what an expansion can come to.
* `CallGraph.exists_expand_eq_ok_iff_acyclic`: a graph expands if and only if it is acyclic.
* `CallGraph.onCycle_error_iff`: where a reported function stands towards the cycles. -/

namespace CallForest

namespace CallGraph

open Relation

/-! ### The three outcomes -/

/-- **The outcomes of an expansion**, with what each of them says about the graph. -/
inductive Expands (graph : CallGraph) : Except CycleError Forest → Prop where
  /-- A walk from a root comes back to a function. -/
  | repeated {grove : Grove} {id : String}
      (hgrows : graph.Grows [] graph.rootIds grove (some id)) :
      Expands graph (.error ⟨graph.region, id⟩)
  /-- The roots unfold, but do not reach every function. -/
  | unreached {grove : Grove} {id : String} (hgrove : graph.Unfolds graph.rootIds grove)
      (hfirst : graph.FirstUnreached id) : Expands graph (.error ⟨graph.region, id⟩)
  /-- The roots unfold and reach every function. -/
  | complete {grove : Grove} (hgrove : graph.Unfolds graph.rootIds grove)
      (hreached : ∀ id ∈ graph.ids, graph.FromRoot id) :
      Expands graph (.ok (.ofGrove graph.region grove))

variable {graph : CallGraph}

/-- A call graph expands into the forest of a grove. -/
theorem exists_grove_of_expand {forest : Forest} (hforest : graph.expand = .ok forest) :
    ∃ grove, forest = .ofGrove graph.region grove := by
  rw [expand] at hforest
  cases hrepeated : graph.growRoots.repeated with
  | some id => simp [hrepeated] at hforest
  | none =>
      simp only [hrepeated] at hforest
      exact ⟨graph.growRoots.grove, (Except.ok.inj hforest).symm⟩

/-- Growing from the roots is the same whether there are any or not: without roots nothing grows,
and the first function without a copy is the first one of all. -/
theorem growRoots_eq (graph : CallGraph) :
    graph.growRoots =
      match (graph.grow [] graph.rootIds).repeated with
      | some repeated => ⟨(graph.grow [] graph.rootIds).grove, some repeated⟩
      | none =>
        ⟨(graph.grow [] graph.rootIds).grove,
          graph.uncovered? (graph.grow [] graph.rootIds).grove⟩ := by
  rw [growRoots]
  split
  · rename_i hroots
    rw [rootIds, hroots, List.map_nil, grow]
    cases hids : graph.ids with
    | nil => simp [uncovered?, hids]
    | cons first ids => simp [uncovered?, hids, Grove.sources]
  · rfl

/-- The functions that an unfolding of the roots has copies of are those that the roots reach. -/
theorem Unfolds.mem_sources_iff_fromRoot {grove : Grove} {id : String}
    (hgrove : graph.Unfolds graph.rootIds grove) : id ∈ grove.sources ↔ graph.FromRoot id :=
  hgrove.mem_sources_iff

/-- **An expansion has one of the three outcomes.** -/
theorem WellFormed.expands_expand (hgraph : graph.WellFormed) : graph.Expands graph.expand := by
  have hroots : ∀ id ∈ graph.rootIds, id ∈ graph.ids :=
    fun id hid => (hgraph.mem_rootIds_iff.1 hid).1
  have hgrows : graph.Grows [] graph.rootIds _ _ := hgraph.grows_grow hroots
  rw [expand, growRoots_eq]
  cases hrepeated : (graph.grow [] graph.rootIds).repeated with
  | some id =>
      rw [hrepeated] at hgrows
      exact .repeated hgrows
  | none =>
      rw [hrepeated] at hgrows
      have hgrove := hgrows.unfolds
      -- Covered by the grove is what the roots reach, so the first uncovered function is unreached.
      cases huncovered : graph.uncovered? (graph.grow [] graph.rootIds).grove with
      | some id =>
          obtain ⟨hid, before, after, hids, hbefore⟩ := List.find?_eq_some_iff_append.1 huncovered
          refine .unreached hgrove ⟨before, after, hids, fun other hother => ?_, ?_⟩
          · exact hgrove.mem_sources_iff_fromRoot.1 (by simpa using hbefore other hother)
          · rw [← hgrove.mem_sources_iff_fromRoot]
            simpa using hid
      | none =>
          refine .complete hgrove fun id hid => ?_
          rw [← hgrove.mem_sources_iff_fromRoot]
          simpa using List.find?_eq_none.1 huncovered id hid

/-- A walk from a root that comes back to a function shows a cycle that a root reaches. -/
theorem Grows.onCycle_of_roots {grove : Grove} {id : String}
    (hgrows : graph.Grows [] graph.rootIds grove (some id)) :
    graph.OnCycle id ∧ graph.FromRoot id :=
  hgrows.onCycle fun _ habove => absurd habove List.not_mem_nil

/-! ### Acyclic graphs -/

/-- Where the roots unfold, no function that they reach is on a cycle. -/
theorem Unfolds.not_onCycle_of_fromRoot {grove : Grove} {id : String}
    (hgrove : graph.Unfolds graph.rootIds grove) (hreached : graph.FromRoot id) :
    ¬ graph.OnCycle id :=
  hgrove.not_onCycle_of_mem_sources (hgrove.mem_sources_iff_fromRoot.2 hreached)

/-- What is reported hangs below a cycle. -/
theorem WellFormed.exists_cycle_above_error (hgraph : graph.WellFormed) {error : CycleError}
    (herror : graph.expand = .error error) :
    error.id ∈ graph.ids ∧
      ∃ other, graph.OnCycle other ∧ ReflTransGen graph.Calls other error.id := by
  have hexpands := hgraph.expands_expand
  rw [herror] at hexpands
  cases hexpands with
  | repeated hgrows =>
      have hcycle := hgrows.onCycle_of_roots.1
      exact ⟨hcycle.mem_ids, _, hcycle, .refl⟩
  | @unreached grove id hgrove hfirst =>
      obtain ⟨before, after, hids, -, hunreached⟩ := hfirst
      have hid : id ∈ graph.ids := by simp [hids]
      exact ⟨hid, hgraph.exists_cycle_above hid hunreached⟩

/-- A graph that expands **unfolds** into its forest, with a copy of each of its functions. -/
theorem WellFormed.exists_unfolds_of_expand_eq_ok (hgraph : graph.WellFormed) {forest : Forest}
    (hforest : graph.expand = .ok forest) :
    ∃ grove, forest = .ofGrove graph.region grove ∧ graph.Unfolds graph.rootIds grove ∧
      ∀ id, id ∈ grove.sources ↔ id ∈ graph.ids := by
  have hexpands := hgraph.expands_expand
  rw [hforest] at hexpands
  cases hexpands with
  | complete hgrove hreached =>
      refine ⟨_, rfl, hgrove, fun id => ?_⟩
      rw [hgrove.mem_sources_iff_fromRoot]
      exact ⟨hgraph.mem_ids_of_fromRoot, hreached id⟩

/-- A graph that expands is acyclic. -/
theorem WellFormed.acyclic_of_expand_eq_ok (hgraph : graph.WellFormed) {forest : Forest}
    (hforest : graph.expand = .ok forest) : graph.Acyclic := by
  obtain ⟨grove, -, hgrove, hsources⟩ := hgraph.exists_unfolds_of_expand_eq_ok hforest
  intro id hcycle
  exact hgrove.not_onCycle_of_mem_sources ((hsources id).2 hcycle.mem_ids) hcycle

/-- A graph that does not expand is cyclic. -/
theorem WellFormed.not_acyclic_of_expand_eq_error (hgraph : graph.WellFormed) {error : CycleError}
    (herror : graph.expand = .error error) : ¬ graph.Acyclic := by
  obtain ⟨-, other, hcycle, -⟩ := hgraph.exists_cycle_above_error herror
  exact fun hacyclic => hacyclic other hcycle

/-- A reported cycle is in the region of its graph. -/
theorem region_of_expand_eq_error {error : CycleError} (herror : graph.expand = .error error) :
    error.region = graph.region := by
  rw [expand] at herror
  cases hrepeated : graph.growRoots.repeated with
  | none => simp [hrepeated] at herror
  | some id =>
      simp only [hrepeated] at herror
      rw [← Except.error.inj herror]

/-- **A call graph expands if and only if it is acyclic**: a cycle is found wherever it is, and a
function that is shared between walks is never taken for one. -/
theorem exists_expand_eq_ok_iff_acyclic (region : String) (history : List GraphStep) :
    (∃ forest, (ofHistory region history).expand = .ok forest) ↔
      (ofHistory region history).Acyclic := by
  have hgraph := wellFormed_ofHistory region history
  constructor
  -- A complete expansion has a copy of every function, and no function with a copy is on a cycle.
  · rintro ⟨forest, hforest⟩ id hcycle
    have hexpands := hgraph.expands_expand
    rw [hforest] at hexpands
    cases hexpands with
    | complete hgrove hreached =>
        exact hgrove.not_onCycle_of_fromRoot (hreached id hcycle.mem_ids) hcycle
  -- Conversely, whatever is reported hangs below a cycle.
  · intro hacyclic
    cases hexpand : (ofHistory region history).expand with
    | ok forest => exact ⟨forest, rfl⟩
    | error error =>
        obtain ⟨-, other, hcycle, -⟩ := hgraph.exists_cycle_above_error hexpand
        exact absurd hcycle (hacyclic other)

/-! ### Reported functions -/

/-- **What a reported cycle is through.** The reported function has a node, and a cycle leads to
it. It is on a cycle itself exactly when the roots reach some cycle, or else when the first function
that they do not reach is on one. -/
theorem onCycle_error_iff (region : String) (history : List GraphStep) (error : CycleError)
    (herror : (ofHistory region history).expand = .error error) :
    error.id ∈ (ofHistory region history).ids ∧
      (∃ other, (ofHistory region history).OnCycle other ∧
        ReflTransGen (ofHistory region history).Calls other error.id) ∧
      ((ofHistory region history).OnCycle error.id ↔
        (∃ id, (ofHistory region history).FromRoot id ∧ (ofHistory region history).OnCycle id) ∨
          ∃ id, (ofHistory region history).FirstUnreached id ∧
            (ofHistory region history).OnCycle id) := by
  have hgraph := wellFormed_ofHistory region history
  obtain ⟨hid, habove⟩ := hgraph.exists_cycle_above_error herror
  refine ⟨hid, habove, ?_⟩
  have hexpands := hgraph.expands_expand
  rw [herror] at hexpands
  cases hexpands with
  | repeated hgrows =>
      -- Both sides hold: the reported function is on a cycle that the roots reach.
      obtain ⟨hcycle, hreached⟩ := hgrows.onCycle_of_roots
      exact ⟨fun _ => Or.inl ⟨_, hreached, hcycle⟩, fun _ => hcycle⟩
  | unreached hgrove hfirst =>
      -- The roots reach no cycle, so all depends on the first function that they do not reach.
      constructor
      · intro hcycle
        exact Or.inr ⟨_, hfirst, hcycle⟩
      · rintro (⟨id, hreached, hcycle⟩ | ⟨id, hother, hcycle⟩)
        · exact absurd hcycle (hgrove.not_onCycle_of_fromRoot hreached)
        · rwa [hfirst.unique hother]

/-- A function that hangs below a cycle, and was added before the functions of the cycle. -/
def leafFirst : List GraphStep :=
  [.ensureNode "leaf", .addEdge "rec" "rec", .addEdge "rec" "leaf"]

/-- A cycle leads to the reported function. -/
theorem onCycle_error_leafFirst :
    "leaf" ∈ (ofHistory "main" leafFirst).ids ∧
      ∃ other, (ofHistory "main" leafFirst).OnCycle other ∧
        ReflTransGen (ofHistory "main" leafFirst).Calls other "leaf" := by
  obtain ⟨hid, habove, -⟩ := onCycle_error_iff "main" leafFirst ⟨"main", "leaf"⟩ (by cbv)
  exact ⟨hid, habove⟩

/-- The reported function need not be on a cycle itself. -/
theorem exists_error_not_onCycle :
    (ofHistory "main" leafFirst).expand = .error ⟨"main", "leaf"⟩ ∧
      ¬ (ofHistory "main" leafFirst).OnCycle "leaf" := by
  refine ⟨by cbv, fun hcycle => ?_⟩
  obtain ⟨callee, hcall, -⟩ := TransGen.head'_iff.1 hcycle
  have hcallees : (ofHistory "main" leafFirst).callees "leaf" = [] := by cbv
  rw [Calls, hcallees] at hcall
  cases hcall

end CallGraph

end CallForest
