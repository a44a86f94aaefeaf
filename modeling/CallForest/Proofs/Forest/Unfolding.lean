import CallForest.Forest.Expansion
import CallForest.Proofs.Graph.Cycle

/-! # Unfoldings

A grove *unfolds* a list of functions when it has one tree for each of them, and below every copy
of a function the trees of the functions it calls. Growing trees below a path either unfolds the
functions completely or stops at a function on a cycle. A finite unfolding leaves no room for
cycles: every call leads to a strictly smaller grove.

* `CallGraph.Grows`: what growing can come to, one rule for each way it can go.
* `CallGraph.Unfolds`: the groves that unfold a list of functions.
* `CallGraph.WellFormed.grows_grow`: growing goes by the rules.
* `CallGraph.Grows.unfolds`, `CallGraph.Grows.onCycle`: its two outcomes. -/

namespace CallForest

namespace CallGraph

open Relation

/-! ### The rules of growing -/

/-- **Growing below a path**: `graph.Grows path ids grove repeated` says that the trees of `ids`
below `path` grow into `grove`, and that `repeated` is the function that stopped them, if any. -/
inductive Grows (graph : CallGraph) :
    List String → List String → Grove → Option String → Prop where
  /-- No function is left. -/
  | done (path : List String) : Grows graph path [] .bare none
  /-- The next function is on the path already. -/
  | again {path : List String} {id : String} (ids : List String) (hpath : id ∈ path) :
      Grows graph path (id :: ids) .bare (some id)
  /-- The growth stops below the next function. -/
  | stopped {path : List String} {id : String} (ids : List String) {below : Grove}
      {repeated : String} (hpath : id ∉ path)
      (hbelow : Grows graph (id :: path) (graph.callees id) below (some repeated)) :
      Grows graph path (id :: ids) (.plant id below .bare) (some repeated)
  /-- The next function grows completely, and the functions after it in some way. -/
  | planted {path : List String} {id : String} {ids : List String} {below next : Grove}
      {repeated : Option String} (hpath : id ∉ path)
      (hbelow : Grows graph (id :: path) (graph.callees id) below none)
      (hnext : Grows graph path ids next repeated) :
      Grows graph path (id :: ids) (.plant id below next) repeated

variable {graph : CallGraph} {path ids : List String} {grove : Grove}

/-- Growing a function that is not on the path: first what it calls, then what comes after it. -/
theorem grow_of_node? {id : String} {node : FunctionNode} (hpath : id ∉ path)
    (hfound : graph.node? id = some node) :
    graph.grow path (id :: ids) =
      match (graph.grow (id :: path) node.callees).repeated with
      | some repeated =>
        ⟨.plant id (graph.grow (id :: path) node.callees).grove .bare, some repeated⟩
      | none =>
        ⟨.plant id (graph.grow (id :: path) node.callees).grove (graph.grow path ids).grove,
          (graph.grow path ids).repeated⟩ := by
  rw [grow, dif_neg hpath]
  split
  · rename_i hnone
    rw [hfound] at hnone
    cases hnone
  · rename_i other hother
    rw [hfound] at hother
    cases hother
    rfl

/-- A function without a node does not grow. -/
theorem grow_of_node?_eq_none {id : String} (hpath : id ∉ path)
    (hnone : graph.node? id = none) : graph.grow path (id :: ids) = graph.grow path ids := by
  rw [grow, dif_neg hpath]
  split
  · rfl
  · rename_i node hfound
    rw [hnone] at hfound
    cases hfound

/-- **Growing goes by the rules**, when every function that is grown has a node. -/
theorem WellFormed.grows_grow (hgraph : graph.WellFormed) (hids : ∀ id ∈ ids, id ∈ graph.ids) :
    graph.Grows path ids (graph.grow path ids).grove (graph.grow path ids).repeated := by
  induction path, ids using grow.induct graph with
  | case1 path =>
      rw [grow]
      exact .done path
  | case2 path id ids hpath =>
      rw [grow, dif_pos hpath]
      exact .again ids hpath
  | case3 path id ids hpath hnone ih =>
      -- Cannot happen: every function that is grown has a node.
      obtain ⟨node, hfound⟩ := exists_node?_of_mem_ids (hids id List.mem_cons_self)
      rw [hfound] at hnone
      cases hnone
  | case4 path id ids hpath node hfound below repeated hrepeated ih =>
      have hcallees : graph.callees id = node.callees := by simp [callees, hfound]
      -- Growth stops below the function: nothing after it is grown.
      have hstop : (graph.grow (id :: path) node.callees).repeated = some repeated := hrepeated
      have hbelow := ih fun callee hcallee => hgraph.mem_ids_of_callee (hcallees ▸ hcallee)
      rw [hstop, ← hcallees] at hbelow
      rw [grow_of_node? hpath hfound, hstop, ← hcallees]
      exact .stopped ids hpath hbelow
  | case5 path id ids hpath node hfound below hrepeated ihbelow ihnext =>
      have hcallees : graph.callees id = node.callees := by simp [callees, hfound]
      have hdone : (graph.grow (id :: path) node.callees).repeated = none := hrepeated
      have hbelow := ihbelow fun callee hcallee => hgraph.mem_ids_of_callee (hcallees ▸ hcallee)
      rw [hdone, ← hcallees] at hbelow
      rw [grow_of_node? hpath hfound, hdone, ← hcallees]
      exact .planted hpath hbelow (ihnext fun other hother => hids other (.tail id hother))

/-- Where growing stops, some function comes back to itself: when every function on the path leads
to the functions that are grown, the growth stops at a function **on a cycle** that one of them
reaches. -/
theorem Grows.onCycle {repeated : String} (hgrows : graph.Grows path ids grove (some repeated))
    (hleads : ∀ above ∈ path, ∀ id ∈ ids, TransGen graph.Calls above id) :
    graph.OnCycle repeated ∧ ∃ id ∈ ids, ReflTransGen graph.Calls id repeated := by
  -- The induction follows the rules; what carries it is that the path leads to all of `ids`.
  generalize hstop : some repeated = outcome at hgrows
  induction hgrows with
  | done path => cases hstop
  | @again path id ids hpath =>
      cases hstop
      exact ⟨hleads repeated hpath repeated List.mem_cons_self,
        repeated, List.mem_cons_self, .refl⟩
  | @stopped path id ids below other hpath hbelow ih =>
      -- One level down the path also has `id` on it, which calls all that is grown there.
      have hdown : ∀ above ∈ id :: path, ∀ callee ∈ graph.callees id,
          TransGen graph.Calls above callee := by
        intro above habove callee hcall
        rcases List.mem_cons.1 habove with rfl | habove
        · exact .single hcall
        · exact (hleads above habove id List.mem_cons_self).tail hcall
      obtain ⟨hcycle, callee, hcall, hwalk⟩ := ih hdown hstop
      exact ⟨hcycle, id, List.mem_cons_self, hwalk.head hcall⟩
  | planted hpath hbelow hnext ihbelow ihnext =>
      obtain ⟨hcycle, id, hid, hwalk⟩ :=
        ihnext (fun above habove id hid => hleads above habove id (.tail _ hid)) hstop
      exact ⟨hcycle, id, .tail _ hid, hwalk⟩

/-! ### Complete unfoldings -/

/-- **Unfolding**: `graph.Unfolds ids grove` says that the trees of `grove` are those of `ids`, one
for each, and that below every function stand the trees of the functions it calls. -/
inductive Unfolds (graph : CallGraph) : List String → Grove → Prop where
  /-- No function has no tree. -/
  | bare : Unfolds graph [] .bare
  /-- The tree of the first function stands before the trees of the others. -/
  | plant {id : String} {ids : List String} {below next : Grove}
      (hbelow : Unfolds graph (graph.callees id) below) (hnext : Unfolds graph ids next) :
      Unfolds graph (id :: ids) (.plant id below next)

/-- Trees that have grown completely **unfold** their functions, whatever the path above them. -/
theorem Grows.unfolds (hgrows : graph.Grows path ids grove none) : graph.Unfolds ids grove := by
  generalize hdone : none = outcome at hgrows
  induction hgrows with
  | done path => exact .bare
  | again ids hpath => cases hdone
  | stopped ids hpath hbelow ih => cases hdone
  | planted hpath hbelow hnext ihbelow ihnext => exact .plant (ihbelow rfl) (ihnext hdone)

namespace Unfolds

/-- A list of functions has at most one unfolding. -/
theorem unique {other : Grove} (hgrove : graph.Unfolds ids grove)
    (hother : graph.Unfolds ids other) : grove = other := by
  induction hgrove generalizing other with
  | bare =>
      cases hother
      rfl
  | plant hbelow hnext ihbelow ihnext =>
      cases hother with
      | plant hbelow' hnext' => rw [ihbelow hbelow', ihnext hnext']

/-- What a function calls unfolds into a smaller grove than a list that the function is in. -/
theorem exists_below {id : String} (hgrove : graph.Unfolds ids grove) (hid : id ∈ ids) :
    ∃ below, graph.Unfolds (graph.callees id) below ∧ below.size < grove.size := by
  induction hgrove with
  | bare => cases hid
  | @plant first ids below next hbelow hnext ihbelow ihnext =>
      rcases List.mem_cons.1 hid with rfl | hid
      · exact ⟨below, hbelow, by rw [Grove.size]; omega⟩
      · obtain ⟨inner, hinner, hsize⟩ := ihnext hid
        exact ⟨inner, hinner, by rw [Grove.size]; omega⟩

/-- Along calls, unfoldings get smaller. -/
theorem exists_smaller {id other : String} {below : Grove}
    (hbelow : graph.Unfolds (graph.callees id) below) (hwalk : TransGen graph.Calls id other) :
    ∃ inner, graph.Unfolds (graph.callees other) inner ∧ inner.size < below.size := by
  induction hwalk with
  | single hcall => exact hbelow.exists_below hcall
  | tail hwalk hcall ih =>
      obtain ⟨middle, hmiddle, hless⟩ := ih
      obtain ⟨inner, hinner, hsmaller⟩ := hmiddle.exists_below hcall
      exact ⟨inner, hinner, hsmaller.trans hless⟩

/-- **A function that unfolds is on no cycle**: it would unfold into a grove smaller than its own.
-/
theorem not_onCycle {id : String} {below : Grove}
    (hbelow : graph.Unfolds (graph.callees id) below) : ¬ graph.OnCycle id := by
  intro hcycle
  obtain ⟨inner, hinner, hsize⟩ := hbelow.exists_smaller hcycle
  rw [hinner.unique hbelow] at hsize
  exact lt_irrefl _ hsize

/-- An unfolding has copies of the functions that its list reaches, and of no others. -/
theorem mem_sources_iff {source : String} (hgrove : graph.Unfolds ids grove) :
    source ∈ grove.sources ↔ ∃ id ∈ ids, ReflTransGen graph.Calls id source := by
  induction hgrove with
  | bare => simp [Grove.sources]
  | @plant id ids below next hbelow hnext ihbelow ihnext =>
      simp only [Grove.sources, List.mem_cons, List.mem_append, ihbelow, ihnext, exists_eq_or_imp]
      rw [ReflTransGen.cases_head_iff (a := id), eq_comm, or_assoc]
      rfl

/-- No function that the list reaches is on a cycle. -/
theorem not_onCycle_of_mem_sources {source : String} (hgrove : graph.Unfolds ids grove)
    (hsource : source ∈ grove.sources) : ¬ graph.OnCycle source := by
  obtain ⟨id, hid, hwalk⟩ := hgrove.mem_sources_iff.1 hsource
  obtain ⟨below, hbelow, -⟩ := hgrove.exists_below hid
  rcases reflTransGen_iff_eq_or_transGen.1 hwalk with rfl | hwalk
  · exact hbelow.not_onCycle
  · obtain ⟨inner, hinner, -⟩ := hbelow.exists_smaller hwalk
    exact hinner.not_onCycle

end Unfolds

end CallGraph

end CallForest
