import CallForest.Proofs.Graph.Walk

/-! # Walks that repeat a function

Along a walk every function leads to those after it. A walk that repeats a function therefore goes
round a cycle, and without cycles a walk is determined by the functions on it. Among the walks of a
kind, such as those that repeat a function, a search in depth meets one first.

* `CallGraph.IsWalk.exists_onCycle`, `CallGraph.IsWalk.nodup`: repeated functions and cycles.
* `CallGraph.IsWalk.eq_of_mem_iff`: walks of an acyclic graph on the same functions are the same.
* `CallGraph.FirstWalk`: the first walk of a kind, in the order of a search in depth. -/

namespace CallForest

namespace CallGraph

open Relation

variable {graph : CallGraph} {starts walk other : List String} {id : String}

/-! ### Walks and cycles -/

/-- Along a walk, every function leads to those after it. -/
theorem IsWalk.pairwise (hwalk : graph.IsWalk starts walk) :
    walk.Pairwise (TransGen graph.Calls) :=
  List.isChain_iff_pairwise.1 (hwalk.2.imp fun _ _ => TransGen.single)

/-- A root reaches every function on a walk that starts at it. -/
theorem IsWalk.fromRoot (hwalk : graph.IsWalk graph.rootIds walk) (hid : id ∈ walk) :
    graph.FromRoot id := by
  have hleads := hwalk.pairwise
  obtain ⟨root, rest, rfl, hroot⟩ := hwalk.exists_cons
  rcases List.mem_cons.1 hid with rfl | hrest
  · exact ⟨id, hroot, .refl⟩
  · exact ⟨root, hroot, (List.rel_of_pairwise_cons hleads hrest).to_reflTransGen⟩

/-- **A walk that repeats a function goes round a cycle.** -/
theorem IsWalk.exists_onCycle (hwalk : graph.IsWalk starts walk) (hrepeats : ¬ walk.Nodup) :
    ∃ id ∈ walk, graph.OnCycle id := by
  by_contra hnone
  refine hrepeats (hwalk.pairwise.imp_of_mem ?_)
  rintro id _ hid - hleads rfl
  exact hnone ⟨id, hid, hleads⟩

/-- In an acyclic graph no walk repeats a function. -/
theorem IsWalk.nodup (hacyclic : graph.Acyclic) (hwalk : graph.IsWalk starts walk) :
    walk.Nodup := by
  by_contra hrepeats
  obtain ⟨id, -, hcycle⟩ := hwalk.exists_onCycle hrepeats
  exact hacyclic id hcycle

/-- **A walk of an acyclic graph is determined by the functions on it**, as they can follow each
other in one order only. -/
theorem IsWalk.eq_of_mem_iff {starts' : List String} (hacyclic : graph.Acyclic)
    (hwalk : graph.IsWalk starts walk) (hother : graph.IsWalk starts' other)
    (hmem : ∀ id, id ∈ walk ↔ id ∈ other) : walk = other := by
  have hperm : walk.Perm other :=
    (List.perm_ext_iff_of_nodup (hwalk.nodup hacyclic) (hother.nodup hacyclic)).2 hmem
  refine hperm.eq_of_pairwise ?_ hwalk.pairwise hother.pairwise
  intro first second _ _ hleads hback
  exact absurd (hleads.trans hback) (hacyclic first)

/-! ### First walks -/

/-- The **first walk** of a kind, in the order of a search in depth from `starts`. -/
structure FirstWalk (graph : CallGraph) (starts : List String) (kind : List String → Prop)
    (walk : List String) : Prop where
  /-- It is a walk. -/
  isWalk : graph.IsWalk starts walk
  /-- It is of the kind. -/
  ofKind : kind walk
  /-- It comes before every other walk of the kind. -/
  first : ∀ other, graph.IsWalk starts other → kind other →
    other = walk ∨ graph.Precedes starts walk other

namespace FirstWalk

variable {kind : List String → Prop}

/-- There is at most one first walk. -/
theorem unique (hwalk : graph.FirstWalk starts kind walk)
    (hother : graph.FirstWalk starts kind other) : walk = other := by
  rcases hwalk.first other hother.isWalk hother.ofKind with hsame | hbefore
  · exact hsame.symm
  rcases hother.first walk hwalk.isWalk hwalk.ofKind with hsame | hafter
  · exact hsame
  · exact absurd hafter hbefore.asymm

/-- A search meets the first function of its list alone before anything else. -/
theorem here (hid : id ∉ starts) (hkind : kind [id]) :
    graph.FirstWalk (id :: starts) kind [id] where
  isWalk := isWalk_cons_iff.2 ⟨List.mem_cons_self, .inl rfl⟩
  ofKind := hkind
  first := by
    intro other hother _
    rcases isWalk_cons_starts_iff.1 hother with ⟨rest, rfl, rfl | hrest⟩ | hother
    · exact .inl rfl
    · obtain ⟨callee, rest, rfl, -⟩ := hrest.exists_cons
      exact .inr (.together _ (.extension _ _ _))
    · exact .inr (hother.precedes_of_not_mem hid)

/-- It goes on below the first function before it comes to the functions behind it. -/
theorem below (hid : id ∉ starts) (hself : ¬ kind [id])
    (hwalk : graph.FirstWalk (graph.callees id) (fun rest => kind (id :: rest)) walk) :
    graph.FirstWalk (id :: starts) kind (id :: walk) where
  isWalk := isWalk_cons_iff.2 ⟨List.mem_cons_self, .inr hwalk.isWalk⟩
  ofKind := hwalk.ofKind
  first := by
    intro other hother hkind
    rcases isWalk_cons_starts_iff.1 hother with ⟨rest, rfl, rfl | hrest⟩ | hother
    · exact absurd hkind hself
    · rcases hwalk.first rest hrest hkind with rfl | hbefore
      · exact .inl rfl
      · exact .inr (.together _ hbefore)
    · exact .inr (hother.precedes_of_not_mem hid)

/-- It comes to the functions behind the first one when no walk through that one is of the kind. -/
theorem behind (hid : id ∉ starts)
    (hnone : ∀ rest, rest = [] ∨ graph.IsWalk (graph.callees id) rest → ¬ kind (id :: rest))
    (hwalk : graph.FirstWalk starts kind walk) : graph.FirstWalk (id :: starts) kind walk where
  isWalk := isWalk_cons_starts_iff.2 (.inr hwalk.isWalk)
  ofKind := hwalk.ofKind
  first := by
    intro other hother hkind
    rcases isWalk_cons_starts_iff.1 hother with ⟨rest, rfl, hrest⟩ | hother
    · exact absurd hkind (hnone rest hrest)
    · rcases hwalk.first other hother hkind with hsame | hbefore
      · exact .inl hsame
      · exact .inr (hbefore.cons_starts (hwalk.isWalk.head?_ne hid) (hother.head?_ne hid))

end FirstWalk

end CallGraph

end CallForest
