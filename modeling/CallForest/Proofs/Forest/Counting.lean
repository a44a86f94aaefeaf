import CallForest.Proofs.Forest.Paths
import CallForest.Proofs.Forest.Shape
import CallForest.Proofs.Graph.Repetition

/-! # Counting copies

In the forest of a call graph every copy is the root of a tree or stands below a copy of a caller,
one below each. Counted over all copies, this gives the number of copies of a function from those of
its callers. On the other hand the copies are the walks from the roots, and a walk of an acyclic
graph is determined by its root and the other functions on it, which bounds the number of all.

* `CallGraph.callers`: the functions that call a function.
* `CallGraph.Unfolds.perm_sources`: the copies are the roots and what the copies call.
* `CallGraph.copiesOf_expand`: copies counted along calls, from callers to callees.
* `CallGraph.IsWalk.exists_root_insert`, `CallGraph.exists_expand_size_le`: how many copies there
  can be. -/

namespace CallForest

/-- A sum over a list is a sum over its different elements, each as often as it occurs. -/
theorem sum_map_eq_sum_count {elements keys : List String} (hkeys : keys.Nodup)
    (hmem : ∀ element, element ∈ elements ↔ element ∈ keys) (weight : String → Nat) :
    (elements.map weight).sum = (keys.map fun key => elements.count key * weight key).sum := by
  have hsame : elements.toFinset = keys.toFinset := by
    ext element
    rw [List.mem_toFinset, List.mem_toFinset, hmem]
  rw [Finset.sum_list_map_count, hsame, List.sum_toFinset _ hkeys]
  rfl

/-- Of a given number of nodes, it is best to have one root. -/
theorem mul_two_pow_le {roots nodes : Nat} (hroots : roots ≤ nodes) :
    roots * 2 ^ (nodes - roots) ≤ 2 ^ (nodes - 1) := by
  rcases Nat.eq_zero_or_pos roots with rfl | hpos
  · rw [Nat.zero_mul]
    exact Nat.zero_le _
  have hless : roots ≤ 2 ^ (roots - 1) := Nat.le_of_pred_lt Nat.lt_two_pow_self
  calc roots * 2 ^ (nodes - roots)
      ≤ 2 ^ (roots - 1) * 2 ^ (nodes - roots) := Nat.mul_le_mul_right _ hless
    _ = 2 ^ (nodes - 1) := by
        rw [← pow_add]
        congr 1
        omega

/-- The copies of a function in the forest of a grove are its occurrences in the grove. -/
theorem Forest.copiesOf_ofGrove (region : String) (grove : Grove) (id : String) :
    (ofGrove region grove).copiesOf id = grove.sources.count id := by
  rw [← grove.map_source_number 0 none 0, List.count, List.countP_map, copiesOf, ofGrove]
  refine List.countP_congr fun node _ => ?_
  simp

namespace CallGraph

variable {graph : CallGraph} {ids walk : List String} {grove : Grove} {id caller : String}

/-! ### Copies below copies -/

/-- The functions that call a function, in order of insertion. -/
def callers (graph : CallGraph) (id : String) : List String := graph.ids.filter (graph.hasEdge · id)

/-- All callers of a function are functions of the graph. -/
theorem mem_callers_iff : caller ∈ graph.callers id ↔ graph.hasEdge caller id = true := by
  rw [callers, List.mem_filter]
  refine ⟨And.right, fun hedge => ⟨?_, hedge⟩⟩
  exact mem_ids_of_mem_callees (calls_iff_hasEdge.2 hedge)

/-- The roots are the functions without callers. -/
theorem WellFormed.count_rootIds (hgraph : graph.WellFormed) (hid : id ∈ graph.ids) :
    graph.rootIds.count id = if (graph.callers id).isEmpty then 1 else 0 := by
  have hroot : id ∈ graph.rootIds ↔ (graph.callers id).isEmpty = true := by
    rw [hgraph.mem_rootIds_iff, List.isEmpty_iff, List.eq_nil_iff_forall_not_mem]
    simp [hid, mem_callers_iff, calls_iff_hasEdge]
  rw [hgraph.nodup_rootIds.count]
  simp only [hroot]

/-- A caller calls a function once. -/
theorem WellFormed.count_callees (hgraph : graph.WellFormed) (caller id : String) :
    (graph.callees caller).count id = if graph.hasEdge caller id = true then 1 else 0 := by
  rw [(hgraph.nodup_callees_of caller).count]
  simp only [← calls_iff_hasEdge, Calls]

/-- **The copies of an unfolding** are those of its own functions, and one below every copy for each
function that this one calls. -/
theorem Unfolds.perm_sources (hgrove : graph.Unfolds ids grove) :
    grove.sources.Perm (ids ++ grove.sources.flatMap graph.callees) := by
  induction hgrove with
  | bare => exact .refl _
  | @plant id ids below next hbelow hnext ihbelow ihnext =>
      rw [Grove.sources, List.flatMap_cons, List.flatMap_append, List.cons_append,
        ← List.append_assoc (graph.callees id)]
      refine List.Perm.cons id ((ihbelow.append ihnext).trans ?_)
      exact List.perm_append_comm_assoc _ _ _

/-- An unfolding has one tree for each of its functions. -/
theorem Unfolds.width_eq (hgrove : graph.Unfolds ids grove) : grove.width = ids.length := by
  induction hgrove with
  | bare => rfl
  | plant hbelow hnext ihbelow ihnext => rw [Grove.width, ihnext, List.length_cons]

section

variable (hgraph : graph.WellFormed) (hgrove : graph.Unfolds graph.rootIds grove)
  (hsources : ∀ id, id ∈ grove.sources ↔ id ∈ graph.ids)

include hgraph hgrove hsources

/-- A function has one copy for each copy of a caller, and one more if nobody calls it. -/
theorem Unfolds.count_sources (hid : id ∈ graph.ids) :
    grove.sources.count id = (if (graph.callers id).isEmpty then 1 else 0) +
      ((graph.callers id).map grove.sources.count).sum := by
  have hbelow : (graph.ids.map fun caller =>
      grove.sources.count caller * (graph.callees caller).count id).sum =
        ((graph.callers id).map grove.sources.count).sum := by
    simp only [hgraph.count_callees, mul_ite, mul_one, mul_zero]
    rw [List.sum_map_ite]
    simp [callers]
  calc grove.sources.count id
      = graph.rootIds.count id +
          (grove.sources.map fun caller => (graph.callees caller).count id).sum := by
        rw [hgrove.perm_sources.count_eq, List.count_append, List.count_flatMap]
        rfl
    _ = (if (graph.callers id).isEmpty then 1 else 0) +
          ((graph.callers id).map grove.sources.count).sum := by
        rw [hgraph.count_rootIds hid, sum_map_eq_sum_count hgraph.nodup_ids hsources, hbelow]

/-- Below every copy there is an edge to each function that it calls. -/
theorem Unfolds.edgeCount_ofGrove (region : String) :
    (Forest.ofGrove region grove).edgeCount =
      (graph.ids.map fun id => grove.sources.count id * (graph.callees id).length).sum := by
  have hnodes := hgrove.perm_sources.length_eq
  have hedges := Forest.edgeCount_add_width region grove
  rw [List.length_append, List.length_flatMap, Grove.length_sources,
    sum_map_eq_sum_count hgraph.nodup_ids hsources] at hnodes
  rw [Forest.size_ofGrove, hgrove.width_eq] at hedges
  omega

end

/-- **Copies along calls.** A function of an expanded graph has one copy for each copy of a caller,
one more if nobody calls it, and at least one in all. The nodes of the forest are the copies of all
functions, and from every copy an edge leads to each function that it calls. -/
theorem copiesOf_expand (region : String) (history : List GraphStep) (forest : Forest)
    (hforest : (ofHistory region history).expand = .ok forest) :
    (∀ id ∈ (ofHistory region history).ids,
      forest.copiesOf id = (if ((ofHistory region history).callers id).isEmpty then 1 else 0) +
        (((ofHistory region history).callers id).map forest.copiesOf).sum) ∧
      (∀ id ∈ (ofHistory region history).ids, 1 ≤ forest.copiesOf id) ∧
      forest.size = ((ofHistory region history).ids.map forest.copiesOf).sum ∧
      forest.edgeCount = ((ofHistory region history).ids.map fun id =>
        forest.copiesOf id * ((ofHistory region history).callees id).length).sum := by
  have hgraph := wellFormed_ofHistory region history
  obtain ⟨grove, rfl, hgrove, hsources⟩ := hgraph.exists_unfolds_of_expand_eq_ok hforest
  have hcopies : (Forest.ofGrove (ofHistory region history).region grove).copiesOf =
      grove.sources.count := funext fun id => Forest.copiesOf_ofGrove _ grove id
  rw [hcopies]
  refine ⟨fun id hid => ?_, fun id hid => ?_, ?_, ?_⟩
  · exact hgrove.count_sources hgraph hsources hid
  · exact List.one_le_count_iff.2 ((hsources id).2 hid)
  · have hsum := sum_map_eq_sum_count hgraph.nodup_ids hsources fun _ => 1
    simpa using hsum
  · exact hgrove.edgeCount_ofGrove hgraph hsources _

/-- Two functions that are shared one after the other. -/
def sharedTwice : List GraphStep :=
  [.addEdge "main" "a", .addEdge "main" "b", .addEdge "a" "c", .addEdge "b" "c", .addEdge "c" "d",
    .addEdge "c" "e", .addEdge "d" "leaf", .addEdge "e" "leaf"]

/-- What is shared twice has four copies, two from either caller. -/
theorem copiesOf_expand_sharedTwice :
    ∃ forest : Forest, (ofHistory "main" sharedTwice).expand = .ok forest ∧
      forest.copiesOf "leaf" = forest.copiesOf "d" + forest.copiesOf "e" ∧
      forest.copiesOf "leaf" = 4 := by
  have hforest : (ofHistory "main" sharedTwice).expand = .ok (.ofGrove "main"
      (.plant "main"
        (.plant "a" (.plant "c" (.plant "d" (.plant "leaf" .bare .bare)
            (.plant "e" (.plant "leaf" .bare .bare) .bare)) .bare)
          (.plant "b" (.plant "c" (.plant "d" (.plant "leaf" .bare .bare)
            (.plant "e" (.plant "leaf" .bare .bare) .bare)) .bare) .bare)) .bare)) := by cbv
  obtain ⟨hcopies, -⟩ := copiesOf_expand "main" sharedTwice _ hforest
  have hids : (ofHistory "main" sharedTwice).ids = ["main", "a", "b", "c", "d", "e", "leaf"] := by
    cbv
  have hcallers : (ofHistory "main" sharedTwice).callers "leaf" = ["d", "e"] := by cbv
  refine ⟨_, hforest, ?_, by decide⟩
  simpa [hcallers] using hcopies "leaf" (by simp [hids])

/-! ### How many copies there can be -/

/-- A walk from a root goes through that root and, behind it, through functions that are no roots.
-/
theorem IsWalk.exists_root_insert (hgraph : graph.WellFormed)
    (hwalk : graph.IsWalk graph.rootIds walk) :
    ∃ root ∈ graph.rootIds.toFinset, ∃ rest ⊆ graph.ids.toFinset \ graph.rootIds.toFinset,
      insert root rest = walk.toFinset := by
  have hleads := hwalk.pairwise
  obtain ⟨root, rest, rfl, hroot⟩ := hwalk.exists_cons
  refine ⟨root, List.mem_toFinset.2 hroot, rest.toFinset, fun id hid => ?_, List.toFinset_cons.symm⟩
  -- The function that calls it is on the walk, too.
  have hbehind := List.rel_of_pairwise_cons hleads (List.mem_toFinset.1 hid)
  obtain ⟨caller, -, hcall⟩ := Relation.TransGen.tail'_iff.1 hbehind
  rw [Finset.mem_sdiff, List.mem_toFinset, List.mem_toFinset]
  exact ⟨hgraph.mem_ids_of_callee hcall,
    fun hother => (hgraph.mem_rootIds_iff.1 hother).2 caller hcall⟩

/-- **Walks from the roots of an acyclic graph are few**: each is determined by its root and the set
of the other functions on it, none of which is a root. -/
theorem WellFormed.card_walks_le (hgraph : graph.WellFormed) (hacyclic : graph.Acyclic)
    {walks : Finset (List String)} (hwalks : ∀ walk ∈ walks, graph.IsWalk graph.rootIds walk) :
    walks.card ≤
      graph.rootIds.length * 2 ^ (graph.ids.length - graph.rootIds.length) := by
  have hroots : graph.rootIds.toFinset ⊆ graph.ids.toFinset := by
    intro id hid
    rw [List.mem_toFinset] at hid ⊢
    exact (hgraph.mem_rootIds_iff.1 hid).1
  have hinj : Set.InjOn List.toFinset (walks : Set (List String)) := by
    intro walk hwalk other hother hsame
    refine (hwalks walk hwalk).eq_of_mem_iff hacyclic (hwalks other hother) fun id => ?_
    rw [← List.mem_toFinset, hsame, List.mem_toFinset]
  have hmaps : Set.MapsTo List.toFinset (walks : Set (List String))
      ((graph.rootIds.toFinset ×ˢ (graph.ids.toFinset \ graph.rootIds.toFinset).powerset).image
        fun choice => insert choice.1 choice.2) := by
    intro walk hwalk
    obtain ⟨root, hroot, rest, hrest, hinsert⟩ := (hwalks walk hwalk).exists_root_insert hgraph
    refine Finset.mem_coe.2 (Finset.mem_image.2 ⟨(root, rest), ?_, hinsert⟩)
    exact Finset.mem_product.2 ⟨hroot, Finset.mem_powerset.2 hrest⟩
  refine ((Finset.card_le_card_of_injOn _ hmaps hinj).trans Finset.card_image_le).trans_eq ?_
  rw [Finset.card_product, Finset.card_powerset, Finset.card_sdiff_of_subset hroots,
    List.toFinset_card_of_nodup hgraph.nodup_ids, List.toFinset_card_of_nodup hgraph.nodup_rootIds]

/-- The paths to the nodes of an unfolding are different walks, which bounds their number. -/
theorem Unfolds.size_le (hgraph : graph.WellFormed) (hacyclic : graph.Acyclic)
    (hgrove : graph.Unfolds graph.rootIds grove) :
    grove.size ≤ graph.roots.length * 2 ^ (graph.size - graph.roots.length) := by
  have hnodup : grove.paths.Nodup :=
    (hgrove.pairwise_paths hgraph hgraph.nodup_rootIds).imp Precedes.ne
  have hwalks : ∀ walk ∈ grove.paths.toFinset, graph.IsWalk graph.rootIds walk := by
    intro walk hwalk
    exact hgrove.mem_paths_iff.1 (List.mem_toFinset.1 hwalk)
  have hcard := hgraph.card_walks_le hacyclic hwalks
  rwa [List.toFinset_card_of_nodup hnodup, Grove.length_paths, rootIds, ids, List.length_map,
    List.length_map] at hcard

/-- **How large the forest of an acyclic graph can get.** Each of its copies is determined by a root
and a set of functions that are no roots. -/
theorem exists_expand_size_le (region : String) (history : List GraphStep)
    (hacyclic : (ofHistory region history).Acyclic) :
    ∃ forest, (ofHistory region history).expand = .ok forest ∧
      forest.size ≤ (ofHistory region history).roots.length *
        2 ^ ((ofHistory region history).size - (ofHistory region history).roots.length) ∧
      forest.size ≤ 2 ^ ((ofHistory region history).size - 1) := by
  have hgraph := wellFormed_ofHistory region history
  cases hforest : (ofHistory region history).expand with
  | error error => exact absurd hacyclic (hgraph.not_acyclic_of_expand_eq_error hforest)
  | ok forest =>
      obtain ⟨grove, rfl, hgrove, -⟩ := hgraph.exists_unfolds_of_expand_eq_ok hforest
      have hsize := hgrove.size_le hgraph hacyclic
      refine ⟨_, rfl, ?_, ?_⟩
      · rwa [Forest.size_ofGrove]
      · rw [Forest.size_ofGrove]
        exact hsize.trans (mul_two_pow_le (List.length_filter_le _ _))

/-- Four functions, each of which calls all that come after it. -/
def everyPair : List GraphStep :=
  [.addEdge "a" "b", .addEdge "a" "c", .addEdge "a" "d", .addEdge "b" "c", .addEdge "b" "d",
    .addEdge "c" "d"]

/-- Where every function calls all that come after it, the forest is as large as it can get. -/
theorem exists_expand_size_le_everyPair :
    (ofHistory "main" everyPair).Acyclic ∧
      ∃ forest : Forest, (ofHistory "main" everyPair).expand = .ok forest ∧
        forest.size ≤ 1 * 2 ^ (4 - 1) ∧ forest.size = 8 := by
  have hexpand : (ofHistory "main" everyPair).expand = .ok (.ofGrove "main"
      (.plant "a"
        (.plant "b" (.plant "c" (.plant "d" .bare .bare) (.plant "d" .bare .bare))
          (.plant "c" (.plant "d" .bare .bare) (.plant "d" .bare .bare))) .bare)) := by cbv
  have hacyclic := (wellFormed_ofHistory "main" everyPair).acyclic_of_expand_eq_ok hexpand
  obtain ⟨forest, hforest, hbound, -⟩ := exists_expand_size_le "main" everyPair hacyclic
  have hroots : (ofHistory "main" everyPair).roots.length = 1 := by cbv
  have hsize : (ofHistory "main" everyPair).size = 4 := by cbv
  rw [hroots, hsize] at hbound
  refine ⟨hacyclic, forest, hforest, hbound, ?_⟩
  rw [← Except.ok.inj (hexpand.symm.trans hforest), Forest.size_ofGrove]
  decide

end CallGraph

end CallForest
