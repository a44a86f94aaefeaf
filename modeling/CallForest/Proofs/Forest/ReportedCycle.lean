import CallForest.Proofs.Forest.Expansion
import CallForest.Proofs.Graph.Repetition

/-! # Which cycle is reported

A cyclic call graph has many cycles in general, and one function is reported. The search in depth
from the roots stops at the first walk that comes back to one of its own functions, whatever has
been grown completely before. Only where no such walk exists does the order of insertion count.

* `CallGraph.ComesRound`: walks that, below a path, go through a function twice.
* `CallGraph.Grows.not_comesRound`, `CallGraph.Grows.exists_firstWalk`: what growing goes through
  when it ends, and when it stops.
* `CallGraph.Reports`, `CallGraph.Reports.unique`: the rules for the function that a cyclic graph is
  reported through.
* `CallGraph.exists_expand_eq_error_of_not_acyclic`: every cyclic graph is reported so. -/

namespace CallForest

namespace CallGraph

variable {graph : CallGraph} {path ids walk : List String} {grove : Grove} {id : String}

/-! ### Growing and walks -/

/-- Below a path, a walk **comes round** when path and walk together go through a function twice. -/
def ComesRound (path walk : List String) : Prop := ¬ (path ++ walk).Nodup

/-- A function can be counted to the path or to the walk below it. -/
theorem comesRound_cons_iff : ComesRound path (id :: walk) ↔ ComesRound (id :: path) walk :=
  not_congr List.nodup_middle

/-- One function comes round when it is on the path. -/
theorem comesRound_singleton_iff (hpath : path.Nodup) : ComesRound path [id] ↔ id ∈ path := by
  rw [comesRound_cons_iff, ComesRound, List.append_nil, List.nodup_cons]
  simp [hpath]

/-- **Growing that ends has gone through no walk that comes round.** -/
theorem Grows.not_comesRound (hgrows : graph.Grows path ids grove none) (hpath : path.Nodup)
    (hwalk : graph.IsWalk ids walk) : ¬ ComesRound path walk := by
  generalize hdone : none = outcome at hgrows
  induction hgrows generalizing walk with
  | done path =>
      obtain ⟨first, rest, -, hfirst⟩ := hwalk.exists_cons
      cases hfirst
  | again ids hid => cases hdone
  | stopped ids hid hbelow ih => cases hdone
  | planted hid hbelow hnext ihbelow ihnext =>
      rcases isWalk_cons_starts_iff.1 hwalk with ⟨rest, rfl, rfl | hrest⟩ | hwalk
      · rwa [comesRound_singleton_iff hpath]
      · rw [comesRound_cons_iff]
        exact ihbelow (List.nodup_cons.2 ⟨hid, hpath⟩) hrest rfl
      · exact ihnext hpath hwalk hdone

/-- **Growing stops at the first walk that comes round**, in the order of a search in depth: the
function that stops it is the last one of that walk. -/
theorem Grows.exists_firstWalk {repeated : String}
    (hgrows : graph.Grows path ids grove (some repeated)) (hgraph : graph.WellFormed)
    (hpath : path.Nodup) (hids : ids.Nodup) :
    ∃ walk, graph.FirstWalk ids (ComesRound path) walk ∧ walk.getLast? = some repeated := by
  -- The induction follows the rules; the path repeats no function as long as the growth goes on.
  generalize hstop : some repeated = outcome at hgrows
  induction hgrows with
  | done path => cases hstop
  | @again path id ids hid =>
      cases hstop
      have hround := (comesRound_singleton_iff hpath).2 hid
      exact ⟨[repeated], .here (List.nodup_cons.1 hids).1 hround, rfl⟩
  | @stopped path id ids below other hid hbelow ih =>
      obtain ⟨walk, hwalk, hlast⟩ :=
        ih (List.nodup_cons.2 ⟨hid, hpath⟩) (hgraph.nodup_callees_of id) hstop
      have hself : ¬ ComesRound path [id] := by rwa [comesRound_singleton_iff hpath]
      refine ⟨id :: walk, .below (List.nodup_cons.1 hids).1 hself ?_, ?_⟩
      · simpa only [comesRound_cons_iff] using hwalk
      · obtain ⟨first, rest, rfl, -⟩ := hwalk.isWalk.exists_cons
        rwa [List.getLast?_cons_cons]
  | @planted path id ids below next repeated hid hbelow hnext ihbelow ihnext =>
      obtain ⟨hfirst, hids⟩ := List.nodup_cons.1 hids
      obtain ⟨walk, hwalk, hlast⟩ := ihnext hpath hids hstop
      refine ⟨walk, hwalk.behind hfirst fun rest hrest => ?_, hlast⟩
      -- What is planted has grown completely, so that nothing through it comes round.
      have hplanted := Grows.planted hid hbelow (.done path)
      exact hplanted.not_comesRound hpath (isWalk_cons_iff.2 ⟨List.mem_cons_self, hrest⟩)

/-! ### Reported functions -/

/-- The function that a cyclic graph is **reported** through. -/
structure Reports (graph : CallGraph) (id : String) : Prop where
  /-- If every function is called, it is the first of all functions. -/
  rootless : (∀ other ∈ graph.ids, graph.inDegree other ≠ 0) → graph.ids.head? = some id
  /-- Else, if some walk from a root repeats a function, it is the last function of the first such
  walk in the order of a search in depth, and lies on a cycle that a root reaches. -/
  repeating : (∃ other ∈ graph.ids, graph.inDegree other = 0) →
    (∃ walk, graph.IsWalk graph.rootIds walk ∧ ¬ walk.Nodup) →
      (∃ walk, graph.FirstWalk graph.rootIds (fun walk => ¬ walk.Nodup) walk ∧
        walk.getLast? = some id) ∧ graph.OnCycle id ∧ graph.FromRoot id
  /-- Else it is the first function that no root reaches. -/
  unreached : (∃ other ∈ graph.ids, graph.inDegree other = 0) →
    (∀ walk, graph.IsWalk graph.rootIds walk → walk.Nodup) → graph.FirstUnreached id

/-- If every function is called, no root reaches anything. -/
theorem not_fromRoot_of_inDegree_ne_zero
    (hcalled : ∀ other ∈ graph.ids, graph.inDegree other ≠ 0) : ¬ graph.FromRoot id := by
  rintro ⟨root, hroot, -⟩
  obtain ⟨node, hnode, -⟩ := List.mem_map.1 hroot
  obtain ⟨hmem, hzero⟩ := List.mem_filter.1 hnode
  exact hcalled node.id (mem_ids_iff.2 ⟨node, hmem, rfl⟩) (by simpa using hzero)

/-- The rules name one function at most. -/
theorem Reports.unique {other : String} (hid : graph.Reports id) (hother : graph.Reports other) :
    id = other := by
  by_cases hcalled : ∀ other ∈ graph.ids, graph.inDegree other ≠ 0
  · exact Option.some.inj ((hid.rootless hcalled).symm.trans (hother.rootless hcalled))
  push Not at hcalled
  by_cases hrepeating : ∃ walk, graph.IsWalk graph.rootIds walk ∧ ¬ walk.Nodup
  · obtain ⟨⟨walk, hwalk, hlast⟩, -⟩ := hid.repeating hcalled hrepeating
    obtain ⟨⟨walk', hwalk', hlast'⟩, -⟩ := hother.repeating hcalled hrepeating
    rw [hwalk.unique hwalk', hlast'] at hlast
    exact (Option.some.inj hlast).symm
  · push Not at hrepeating
    exact (hid.unreached hcalled hrepeating).unique (hother.unreached hcalled hrepeating)

/-- **What is reported** of a graph that does not expand. -/
theorem WellFormed.reports_of_expand_eq_error (hgraph : graph.WellFormed) {error : CycleError}
    (herror : graph.expand = .error error) : graph.Reports error.id := by
  have hexpands := hgraph.expands_expand
  rw [herror] at hexpands
  cases hexpands with
  | repeated hgrows =>
      obtain ⟨walk, hwalk, hlast⟩ :=
        hgrows.exists_firstWalk hgraph List.nodup_nil hgraph.nodup_rootIds
      obtain ⟨hcycle, hreached⟩ := hgrows.onCycle_of_roots
      refine ⟨fun hcalled => ?_, fun _ _ => ⟨⟨walk, hwalk, hlast⟩, hcycle, hreached⟩,
        fun _ hsimple => ?_⟩
      · exact absurd hreached (not_fromRoot_of_inDegree_ne_zero hcalled)
      · exact absurd (hsimple walk hwalk.isWalk) hwalk.ofKind
  | unreached hgrove hfirst =>
      refine ⟨fun hcalled => ?_, ?_, fun _ _ => hfirst⟩
      · obtain ⟨before, after, hids, hbefore, -⟩ := hfirst
        cases before with
        | nil => rw [hids, List.nil_append, List.head?_cons]
        | cons other before =>
            exact absurd (hbefore other List.mem_cons_self)
              (not_fromRoot_of_inDegree_ne_zero hcalled)
      -- The roots reach no cycle here, so that no walk from a root repeats a function.
      · rintro - ⟨walk, hwalk, hrepeats⟩
        obtain ⟨other, hother, hcycle⟩ := hwalk.exists_onCycle hrepeats
        exact absurd hcycle (hgrove.not_onCycle_of_fromRoot (hwalk.fromRoot hother))

/-- **The reported cycle of a cyclic graph.** It is in the region of the graph, and is reported
through the one function that the rules name: the first of all if every function is called, else the
one at which the first walk from a root comes back to itself, else the first that no root reaches.
-/
theorem exists_expand_eq_error_of_not_acyclic (region : String) (history : List GraphStep)
    (hcyclic : ¬ (ofHistory region history).Acyclic) :
    ∃ error, (ofHistory region history).expand = .error error ∧
      error.region = (ofHistory region history).region ∧
      ∀ id, (ofHistory region history).Reports id ↔ id = error.id := by
  have hgraph := wellFormed_ofHistory region history
  cases hexpand : (ofHistory region history).expand with
  | ok forest => exact absurd (hgraph.acyclic_of_expand_eq_ok hexpand) hcyclic
  | error error =>
      have hreports := hgraph.reports_of_expand_eq_error hexpand
      refine ⟨error, rfl, region_of_expand_eq_error hexpand, fun id => ⟨?_, ?_⟩⟩
      · intro hid
        exact hid.unique hreports
      · rintro rfl
        exact hreports

/-- A cycle below a root, behind a function that is shared and grown twice, and a cycle that no root
reaches. -/
def sharedBeforeCycle : List GraphStep :=
  [.addEdge "own" "own", .addEdge "main" "shared", .addEdge "shared" "leaf", .addEdge "main" "a",
    .addEdge "a" "shared", .addEdge "a" "b", .addEdge "b" "a"]

/-- The search grows what is shared twice, and stops at the function that closes the first walk. -/
theorem exists_expand_eq_error_sharedBeforeCycle :
    ¬ (ofHistory "main" sharedBeforeCycle).Acyclic ∧
      ∃ walk, (ofHistory "main" sharedBeforeCycle).FirstWalk ["main"] (fun walk => ¬ walk.Nodup)
        walk ∧ walk.getLast? = some "a" := by
  have hexpand : (ofHistory "main" sharedBeforeCycle).expand = .error ⟨"main", "a"⟩ := by cbv
  have hcyclic :=
    (wellFormed_ofHistory "main" sharedBeforeCycle).not_acyclic_of_expand_eq_error hexpand
  obtain ⟨error, herror, -, hreports⟩ :=
    exists_expand_eq_error_of_not_acyclic "main" sharedBeforeCycle hcyclic
  obtain rfl : error = ⟨"main", "a"⟩ := Except.error.inj (herror.symm.trans hexpand)
  have hnamed : (ofHistory "main" sharedBeforeCycle).Reports "a" := (hreports "a").2 rfl
  have hroots : (ofHistory "main" sharedBeforeCycle).rootIds = ["main"] := by cbv
  have hcalls : ∀ caller callee, (ofHistory "main" sharedBeforeCycle).hasEdge caller callee = true →
      (ofHistory "main" sharedBeforeCycle).Calls caller callee :=
    fun _ _ => calls_iff_hasEdge.2
  have hwalk : (ofHistory "main" sharedBeforeCycle).IsWalk ["main"] ["main", "a", "b", "a"] :=
    ⟨⟨"main", by simp, rfl⟩, .cons_cons (hcalls _ _ (by cbv)) (.cons_cons (hcalls _ _ (by cbv))
      (.cons_cons (hcalls _ _ (by cbv)) (.singleton "a")))⟩
  have hroot : ∃ other ∈ (ofHistory "main" sharedBeforeCycle).ids,
      (ofHistory "main" sharedBeforeCycle).inDegree other = 0 := by
    refine ⟨"main", ?_, by cbv⟩
    have hids : (ofHistory "main" sharedBeforeCycle).ids =
        ["own", "main", "shared", "leaf", "a", "b"] := by cbv
    simp [hids]
  have hfirst := (hnamed.repeating hroot ⟨_, hroots ▸ hwalk, by decide⟩).1
  rw [hroots] at hfirst
  exact ⟨hcyclic, hfirst⟩

end CallGraph

end CallForest
