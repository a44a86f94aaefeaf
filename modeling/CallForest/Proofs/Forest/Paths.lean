import CallForest.Proofs.Forest.Expansion
import CallForest.Proofs.Forest.Numbering
import CallForest.Proofs.Graph.Walk

/-! # Paths of a forest

The path to a node of an expanded call graph is a walk from a root, and every walk from a root is
the path to one node. Node after node, the paths are the walks in the order of a search in depth.

* `Grove.paths`: the paths to the nodes of a grove, in preorder.
* `Forest.map_pathTo?_number`: chains of parents are the paths of the numbered grove.
* `CallGraph.Unfolds.mem_paths_iff`, `CallGraph.Unfolds.pairwise_paths`: the paths of an unfolding
  are the walks, in order.
* `CallGraph.paths_expand`: the same of the forest of a call graph. -/

namespace CallForest

namespace Grove

/-- The **paths** to the nodes of a grove, each from the root of its tree, in preorder. -/
def paths : Grove → List (List String)
  | bare => []
  | plant source below next => [source] :: (below.paths.map (source :: ·) ++ next.paths)

/-- There is one path for every node. -/
theorem length_paths (grove : Grove) : grove.paths.length = grove.size := by
  induction grove with
  | bare => rfl
  | plant source below next ihbelow ihnext =>
      rw [paths, List.length_cons, List.length_append, List.length_map, ihbelow, ihnext, size]
      omega

end Grove

/-! ### Chains of parents -/

namespace Forest

/-- The functions above a node that is numbered from `start` on: none when it has no parent, else
those on the path to its parent, which stands before `start`. -/
def Above (forest : Forest) (start : Nat) (above : List String) : Option Nat → Prop
  | none => above = []
  | some parent => parent < start ∧ forest.pathTo? parent = some above

variable {forest : Forest}

/-- A later start leaves the same functions above. -/
theorem Above.mono {start later : Nat} {above : List String} {parent : Option Nat}
    (habove : forest.Above start above parent) (hlater : start ≤ later) :
    forest.Above later above parent := by
  cases parent with
  | none => exact habove
  | some parent => exact ⟨habove.1.trans_le hlater, habove.2⟩

/-- The path to a node leads through the functions above it. -/
theorem pathTo?_of_above {id : Nat} {node : BranchNode} {above : List String}
    (hnode : forest.nodes[id]? = some node) (habove : forest.Above id above node.parent) :
    forest.pathTo? id = some (above ++ [node.source]) := by
  rw [pathTo?, hnode]
  cases hparent : node.parent with
  | none =>
      rw [hparent] at habove
      have hnone : above = [] := habove
      simp only [hparent, hnone, List.nil_append]
  | some parent =>
      rw [hparent] at habove
      obtain ⟨hless, hpath⟩ := habove
      simp only [hparent, if_pos hless, hpath, Option.map_some]

/-- **Chains of parents in a numbered grove** are its paths, behind what stands above the grove. -/
theorem map_pathTo?_number {grove : Grove} {start depth : Nat} {parent : Option Nat}
    {before after : List BranchNode} {above : List String} (hstart : before.length = start)
    (hnodes : forest.nodes = before ++ (grove.number start parent depth ++ after))
    (habove : forest.Above start above parent) :
    (List.range' start grove.size).map forest.pathTo? =
      grove.paths.map fun path => some (above ++ path) := by
  -- The grove stands anywhere among the nodes: `above` is what its parent contributes.
  induction grove generalizing before start parent depth after above with
  | bare => rfl
  | plant source below next ihbelow ihnext =>
      let node : BranchNode :=
        ⟨start, source, parent, below.starts (start + 1), depth, .plain source⟩
      have hsplit : forest.nodes = before ++ (node ::
          (below.number (start + 1) (some start) (depth + 1) ++
            (next.number (start + 1 + below.size) parent depth ++ after))) := by
        rw [hnodes, Grove.number, List.cons_append, List.append_assoc]
      have hnode : forest.nodes[start]? = some node := by
        rw [hsplit, List.getElem?_append_right hstart.le, hstart, Nat.sub_self,
          List.getElem?_cons_zero]
      have hself : forest.pathTo? start = some (above ++ [source]) :=
        pathTo?_of_above hnode habove
      -- The nodes below have this node above them.
      have hbelow : (List.range' (start + 1) below.size).map forest.pathTo? =
          below.paths.map fun path => some (above ++ [source] ++ path) := by
        have hlength : (before ++ [node]).length = start + 1 := by simp [hstart]
        have hchain : forest.Above (start + 1) (above ++ [source]) (some start) :=
          ⟨Nat.lt_succ_self start, hself⟩
        rw [List.append_cons] at hsplit
        exact ihbelow hlength hsplit hchain
      -- The nodes after it have the same above them as this one.
      have hnext : (List.range' (start + 1 + below.size) next.size).map forest.pathTo? =
          next.paths.map fun path => some (above ++ path) := by
        have hlength : (before ++
            node :: below.number (start + 1) (some start) (depth + 1)).length =
              start + 1 + below.size := by
          simp [hstart]
          omega
        rw [← List.cons_append, ← List.append_assoc] at hsplit
        exact ihnext hlength hsplit (habove.mono (by omega))
      rw [Grove.range'_size_plant, Grove.paths, List.map_cons, List.map_append, hself, hbelow,
        hnext, List.map_cons, List.map_append, List.map_map]
      simp only [Function.comp_def, List.append_assoc, List.singleton_append]

/-- The paths to the nodes of a grove's forest are the paths of the grove. -/
theorem map_pathTo?_ofGrove (region : String) (grove : Grove) :
    (List.range (ofGrove region grove).size).map (ofGrove region grove).pathTo? =
      grove.paths.map some := by
  have hnodes : (ofGrove region grove).nodes = [] ++ (grove.number 0 none 0 ++ []) := by
    rw [List.nil_append, List.append_nil, ofGrove]
  rw [size_ofGrove, List.range_eq_range']
  exact map_pathTo?_number rfl hnodes rfl

end Forest

/-! ### Paths of unfoldings -/

namespace CallGraph

variable {graph : CallGraph} {ids : List String} {grove : Grove}

namespace Unfolds

/-- **The paths of an unfolding are the walks** from its functions. -/
theorem mem_paths_iff {walk : List String} (hgrove : graph.Unfolds ids grove) :
    walk ∈ grove.paths ↔ graph.IsWalk ids walk := by
  induction hgrove generalizing walk with
  | bare => simp [Grove.paths, IsWalk]
  | @plant id ids below next hbelow hnext ihbelow ihnext =>
      rw [isWalk_cons_starts_iff, Grove.paths, List.mem_cons, List.mem_append, List.mem_map, ihnext,
        ← or_assoc]
      refine or_congr_left ?_
      simp only [ihbelow]
      constructor
      · rintro (rfl | ⟨rest, hrest, rfl⟩)
        · exact ⟨[], rfl, .inl rfl⟩
        · exact ⟨rest, rfl, .inr hrest⟩
      · rintro ⟨rest, rfl, rfl | hrest⟩
        · exact .inl rfl
        · exact .inr ⟨rest, hrest, rfl⟩

/-- **The paths of an unfolding are in the order of a search in depth**, when its functions are
different from each other. -/
theorem pairwise_paths (hgraph : graph.WellFormed) (hgrove : graph.Unfolds ids grove)
    (hids : ids.Nodup) : grove.paths.Pairwise (graph.Precedes ids) := by
  induction hgrove with
  | bare => exact .nil
  | @plant id ids below next hbelow hnext ihbelow ihnext =>
      obtain ⟨hid, hids⟩ := List.nodup_cons.1 hids
      -- Paths in the trees after the first one come after its own.
      have hlater : ∀ rest, ∀ path ∈ next.paths,
          graph.Precedes (id :: ids) (id :: rest) path := fun rest path hpath =>
        (hnext.mem_paths_iff.1 hpath).precedes_of_not_mem hid
      have hhead : ∀ path ∈ next.paths, path.head? ≠ some id := by
        intro path hpath
        exact (hnext.mem_paths_iff.1 hpath).head?_ne hid
      rw [Grove.paths, List.pairwise_cons, List.pairwise_append, List.pairwise_map]
      refine ⟨fun path hpath => ?_, ?_, ?_, fun path hpath other hother => ?_⟩
      · rcases List.mem_append.1 hpath with hpath | hpath
        · obtain ⟨walk, hwalk, rfl⟩ := List.mem_map.1 hpath
          obtain ⟨first, rest, rfl, -⟩ := (hbelow.mem_paths_iff.1 hwalk).exists_cons
          exact .together _ (.extension _ _ _)
        · exact hlater [] path hpath
      · exact (ihbelow (hgraph.nodup_callees_of id)).imp (.together _)
      · exact (ihnext hids).imp_of_mem fun hpath hother hbefore =>
          hbefore.cons_starts (hhead _ hpath) (hhead _ hother)
      · obtain ⟨walk, -, rfl⟩ := List.mem_map.1 hpath
        exact hlater walk other hother

end Unfolds

/-- **The paths of an expanded call graph.** Node after node, the paths to the nodes are the walks
that start at a root: all of them, each once, in the order of a search in depth. -/
theorem paths_expand (region : String) (history : List GraphStep) (forest : Forest)
    (hforest : (ofHistory region history).expand = .ok forest) :
    ∃ paths : List (List String),
      (List.range forest.size).map forest.pathTo? = paths.map some ∧
        (∀ walk, walk ∈ paths ↔
          (ofHistory region history).IsWalk (ofHistory region history).rootIds walk) ∧
        paths.Nodup ∧
        paths.Pairwise
          ((ofHistory region history).Precedes (ofHistory region history).rootIds) := by
  have hgraph := wellFormed_ofHistory region history
  have hexpands := hgraph.expands_expand
  rw [hforest] at hexpands
  cases hexpands with
  | @complete grove hgrove hreached =>
      have hpairwise := hgrove.pairwise_paths hgraph hgraph.nodup_rootIds
      exact ⟨grove.paths, Forest.map_pathTo?_ofGrove _ grove, fun walk => hgrove.mem_paths_iff,
        hpairwise.imp Precedes.ne, hpairwise⟩

/-- Two callees that call the same function. -/
def diamond : List GraphStep :=
  [.addEdge "main" "a", .addEdge "main" "b", .addEdge "a" "leaf", .addEdge "b" "leaf"]

/-- In a diamond one walk leads to the shared function on either side. -/
theorem paths_expand_diamond :
    {walk | (ofHistory "main" diamond).IsWalk ["main"] walk} =
      {walk | walk ∈ [["main"], ["main", "a"], ["main", "a", "leaf"], ["main", "b"],
        ["main", "b", "leaf"]]} := by
  obtain ⟨paths, hpaths, hwalks, -, -⟩ := paths_expand "main" diamond
    (.ofGrove "main" (.plant "main"
      (.plant "a" (.plant "leaf" .bare .bare) (.plant "b" (.plant "leaf" .bare .bare) .bare))
      .bare)) (by cbv)
  have hlist : [["main"], ["main", "a"], ["main", "a", "leaf"], ["main", "b"],
      ["main", "b", "leaf"]] = paths := by
    refine List.map_injective_iff.2 (Option.some_injective _) (Eq.trans ?_ hpaths)
    cbv
  have hroots : (ofHistory "main" diamond).rootIds = ["main"] := by cbv
  ext walk
  rw [Set.mem_ofPred_eq, Set.mem_ofPred_eq, hlist, hwalks, hroots]

end CallGraph

end CallForest
