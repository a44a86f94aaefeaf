import CallForest.Proofs.Graph.WellFormed
import CallForest.Proofs.ListSplit
import Mathlib

/-! # Cycles and roots

A call graph is acyclic when no function comes back to itself along its calls. In a finite graph
the search backwards from a function, from callee to caller, ends: either at a root, or it goes
round a cycle. So every function that no root reaches hangs below some cycle.

* `CallGraph.Calls`, `CallGraph.OnCycle`, `CallGraph.Acyclic`: calls and cycles.
* `CallGraph.FromRoot`, `CallGraph.FirstUnreached`: the functions that some root reaches, and the
  first one that none does.
* `CallGraph.WellFormed.exists_cycle_above`: a cycle above every function that no root reaches. -/

namespace CallForest

namespace CallGraph

open Relation

/-- One function is drawn as calling another. -/
def Calls (graph : CallGraph) (caller callee : String) : Prop := callee ∈ graph.callees caller

/-- A function lies **on a cycle**: one or more calls lead from it back to itself. -/
def OnCycle (graph : CallGraph) (id : String) : Prop := TransGen graph.Calls id id

/-- No function lies on a cycle. -/
def Acyclic (graph : CallGraph) : Prop := ∀ id, ¬ graph.OnCycle id

/-- The functions that nobody calls, in order of insertion. -/
def rootIds (graph : CallGraph) : List String := graph.roots.map (·.id)

/-- Some root is a function itself, or reaches it along calls. -/
def FromRoot (graph : CallGraph) (id : String) : Prop :=
  ∃ root ∈ graph.rootIds, ReflTransGen graph.Calls root id

/-- The first function, in order of insertion, that no root reaches. -/
def FirstUnreached (graph : CallGraph) (id : String) : Prop :=
  ∃ before after, graph.ids = before ++ id :: after ∧
    (∀ other ∈ before, graph.FromRoot other) ∧ ¬ graph.FromRoot id

variable {graph : CallGraph} {id : String}

/-- Calls are the edges of the graph. -/
theorem calls_iff_hasEdge {caller callee : String} :
    graph.Calls caller callee ↔ graph.hasEdge caller callee = true := by
  simp [Calls, hasEdge]

/-- A function on a cycle has a node. -/
theorem OnCycle.mem_ids (hcycle : graph.OnCycle id) : id ∈ graph.ids := by
  obtain ⟨callee, hcall, -⟩ := TransGen.head'_iff.1 hcycle
  exact mem_ids_of_mem_callees hcall

/-- There is at most one first function that no root reaches. -/
theorem FirstUnreached.unique {other : String} (hid : graph.FirstUnreached id)
    (hother : graph.FirstUnreached other) : id = other := by
  obtain ⟨before, after, hids, hbefore, hunreached⟩ := hid
  obtain ⟨before', after', hids', hbefore', hunreached'⟩ := hother
  exact (append_cons_inj_of_forall hbefore hunreached hbefore' hunreached' (hids ▸ hids')).2.1

namespace WellFormed

/-- The ids of the roots are the functions of the graph that nobody calls. -/
theorem mem_rootIds_iff (hgraph : graph.WellFormed) :
    id ∈ graph.rootIds ↔ id ∈ graph.ids ∧ ∀ caller, ¬ graph.Calls caller id := by
  constructor
  · intro hroot
    obtain ⟨node, hnode, rfl⟩ := List.mem_map.1 hroot
    obtain ⟨hmem, hnone⟩ := hgraph.mem_roots_iff.1 hnode
    exact ⟨mem_ids_iff.2 ⟨node, hmem, rfl⟩, hnone⟩
  · rintro ⟨hid, hnone⟩
    obtain ⟨node, hnode, rfl⟩ := mem_ids_iff.1 hid
    exact List.mem_map.2 ⟨node, hgraph.mem_roots_iff.2 ⟨hnode, hnone⟩, rfl⟩

/-- The functions that the roots reach have nodes. -/
theorem mem_ids_of_fromRoot (hgraph : graph.WellFormed) (hreached : graph.FromRoot id) :
    id ∈ graph.ids := by
  obtain ⟨root, hroot, hwalk⟩ := hreached
  rcases ReflTransGen.cases_tail hwalk with rfl | ⟨caller, -, hcall⟩
  · exact (hgraph.mem_rootIds_iff.1 hroot).1
  · exact hgraph.mem_ids_of_callee hcall

/-- The roots are different functions. -/
theorem nodup_rootIds (hgraph : graph.WellFormed) : graph.rootIds.Nodup :=
  hgraph.nodup_ids.sublist (List.filter_sublist.map _)

/-- **Going backwards from a function ends at a root or goes round a cycle.** A function of the
graph that no root reaches is on a cycle, or some cycle leads to it. -/
theorem exists_cycle_above (hgraph : graph.WellFormed) (hid : id ∈ graph.ids)
    (hunreached : ¬ graph.FromRoot id) :
    ∃ other, graph.OnCycle other ∧ ReflTransGen graph.Calls other id := by
  by_contra hnone
  -- Without such a cycle, "leads to" is a strict order on the finitely many functions above `id`.
  let Above := { other : String // other ∈ graph.ids ∧ ReflTransGen graph.Calls other id }
  let leads : Above → Above → Prop := fun first second => TransGen graph.Calls first second
  have : Finite Above :=
    Set.Finite.subset graph.ids.finite_toSet fun _ hother => hother.1
  have : IsTrans Above leads := ⟨fun _ _ _ => TransGen.trans⟩
  have : Std.Irrefl leads := ⟨fun other hcycle => hnone ⟨other, hcycle, other.2.2⟩⟩
  obtain ⟨⟨top, htop, hwalk⟩, -, hfirst⟩ :=
    (Finite.wellFounded_of_trans_of_irrefl leads).has_min Set.univ ⟨⟨id, hid, .refl⟩, trivial⟩
  -- A first function above `id` has no caller, so it is a root, and it reaches `id`.
  have hroot : top ∈ graph.rootIds := by
    refine hgraph.mem_rootIds_iff.2 ⟨htop, fun caller hcall => ?_⟩
    have hcaller : caller ∈ graph.ids ∧ ReflTransGen graph.Calls caller id :=
      ⟨mem_ids_of_mem_callees hcall, hwalk.head hcall⟩
    exact hfirst ⟨caller, hcaller⟩ trivial (TransGen.single hcall)
  exact hunreached ⟨top, hroot, hwalk⟩

/-- In an acyclic graph some root reaches every function. -/
theorem fromRoot_of_acyclic (hgraph : graph.WellFormed) (hacyclic : graph.Acyclic)
    (hid : id ∈ graph.ids) : graph.FromRoot id := by
  by_contra hunreached
  obtain ⟨other, hcycle, -⟩ := hgraph.exists_cycle_above hid hunreached
  exact hacyclic other hcycle

end WellFormed

end CallGraph

end CallForest
