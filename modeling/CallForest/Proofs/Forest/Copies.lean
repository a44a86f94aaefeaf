import CallForest.Proofs.Forest.Preorder

/-! # Copies of one function look the same

A function that is called from many places has many copies, grown at different times below different
paths. What stands below a copy depends on neither: seen from the copies, their subtrees are the
same.

* `Forest.subtree`, `BranchNode.seenFrom`: the nodes below a node, and how they look from there.
* `Grove.block`: a node and what stands below it, in a row.
* `Grove.map_seenFrom_number`: where a grove is numbered, it looks the same from there.
* `CallGraph.Unfolds.below_of_mem_trees`: every tree of an unfolding unfolds what its function
  calls.
* `CallGraph.subtree_expand`: the same of the copies in the forest of a call graph. -/

namespace CallForest

open Relation

/-- The **subtree** of a node: the numbers of the node itself and of its descendants. -/
def Forest.subtree (forest : Forest) (id : Nat) : Set Nat :=
  {inner | ReflTransGen forest.IsParent id inner}

/-- A node **as it is seen from** another one with a given number and depth: its function, its
children, and its depth, counted from there. -/
def BranchNode.seenFrom (base level : Nat) (node : BranchNode) : String × List Int × Int :=
  (node.source, node.children.map fun child : Nat => (child : Int) - base,
    (node.depth : Int) - level)

/-! ### Numbering from another place -/

namespace Grove

/-- A grove that is numbered from a later number on has its roots so much later. -/
theorem starts_add (grove : Grove) (base start : Nat) :
    grove.starts (base + start) = (grove.starts start).map (base + ·) := by
  induction grove generalizing start with
  | bare => rfl
  | plant source below next ihbelow ihnext =>
      have hnext : base + start + 1 + below.size = base + (start + 1 + below.size) := by omega
      rw [starts, starts, List.map_cons, hnext, ihnext]

/-- Roots look the same from wherever the numbers begin. -/
theorem map_sub_starts (grove : Grove) (base start : Nat) :
    (grove.starts (base + start)).map (fun child : Nat => (child : Int) - base) =
      (grove.starts start).map fun child : Nat => (child : Int) := by
  rw [starts_add, List.map_map]
  refine List.map_congr_left fun child _ => ?_
  simp

/-- **Where a grove is numbered, it looks the same from there**, whatever parent and depth it is
given. -/
theorem map_seenFrom_number (grove : Grove) (base level start depth : Nat)
    (parent parent' : Option Nat) :
    (grove.number (base + start) parent (level + depth)).map (BranchNode.seenFrom base level) =
      (grove.number start parent' depth).map (BranchNode.seenFrom 0 0) := by
  induction grove generalizing start depth parent parent' with
  | bare => rfl
  | plant source below next ihbelow ihnext =>
      have hbelow := ihbelow (start + 1) (depth + 1) (some (base + start)) (some start)
      have hnext := ihnext (start + 1 + below.size) depth parent parent'
      have hroot : BranchNode.seenFrom base level
          ⟨base + start, source, parent, below.starts (base + start + 1), level + depth,
            .plain source⟩ =
          BranchNode.seenFrom 0 0
            ⟨start, source, parent', below.starts (start + 1), depth, .plain source⟩ := by
        simp [BranchNode.seenFrom, Nat.add_assoc, map_sub_starts]
      have hplace : base + start + 1 + below.size = base + (start + 1 + below.size) := by omega
      rw [number, number, List.map_cons, List.map_cons, List.map_append, List.map_append, hroot,
        hplace, hnext]
      exact congrArg (_ :: · ++ _) hbelow

/-- The **block** of a node with a grove below it: the node, and the grove. -/
def block (below : Grove) (node : BranchNode) : List BranchNode :=
  node :: below.number (node.id + 1) (some node.id) (node.depth + 1)

/-- There are as many nodes in a block as in the grove, and one more. -/
theorem length_block (below : Grove) (node : BranchNode) :
    (below.block node).length = below.size + 1 := by
  simp [block]

/-- The nodes of a block have the numbers from that of its node on. -/
theorem map_id_block (below : Grove) (node : BranchNode) :
    (below.block node).map (·.id) = List.range' node.id (below.size + 1) := by
  rw [block, List.map_cons, map_id_number, List.range'_succ]

/-- **A block, as it is seen from its node**, depends on the function and the grove alone. -/
theorem map_seenFrom_block {below : Grove} {node : BranchNode}
    (hchildren : node.children = below.starts (node.id + 1)) :
    (below.block node).map (BranchNode.seenFrom node.id node.depth) =
      (node.source, (below.starts 1).map (fun child : Nat => (child : Int)), 0) ::
        (below.number 1 none 1).map (BranchNode.seenFrom 0 0) := by
  rw [block, List.map_cons, below.map_seenFrom_number node.id node.depth 1 1 (some node.id) none]
  simp [BranchNode.seenFrom, hchildren, map_sub_starts]

end Grove

/-! ### Trees of an unfolding -/

/-- **Every tree of an unfolding unfolds what its function calls**, wherever it stands. -/
theorem CallGraph.Unfolds.below_of_mem_trees {graph : CallGraph} {ids : List String}
    {grove below : Grove} {source : String} (hgrove : graph.Unfolds ids grove)
    (htree : (source, below) ∈ grove.trees) : graph.Unfolds (graph.callees source) below := by
  induction hgrove with
  | bare => cases htree
  | plant hbelow hnext ihbelow ihnext =>
      rcases List.mem_cons.1 htree with hfirst | hrest
      · obtain ⟨rfl, rfl⟩ := Prod.mk.inj hfirst
        exact hbelow
      rcases List.mem_append.1 hrest with htree | htree
      · exact ihbelow htree
      · exact ihnext htree

namespace Forest

variable {region : String} {grove below : Grove} {node : BranchNode}

/-- The nodes of a block stand one behind the other, beginning with the node that the block is of.
-/
theorem getElem?_block {k : Nat} (hblock : below.block node ⊆ (ofGrove region grove).nodes)
    (hk : k < below.size + 1) :
    (ofGrove region grove).nodes[node.id + k]? = (below.block node)[k]? := by
  obtain ⟨copy, hcopy⟩ : ∃ copy, (below.block node)[k]? = some copy :=
    ⟨_, List.getElem?_eq_getElem (by rwa [Grove.length_block])⟩
  have hid : copy.id = node.id + k := by
    have hplace := congrArg (·[k]?) (below.map_id_block node)
    rw [List.getElem?_map, hcopy] at hplace
    simpa [hk] using hplace
  rw [hcopy, ← hid, getElem?_ofGrove (hblock (List.mem_of_getElem? hcopy))]

/-- The subtree of a node is its block. -/
theorem subtree_ofGrove (hnode : node ∈ (ofGrove region grove).nodes)
    (hchildren : node.children = below.starts (node.id + 1))
    (hbelow : below.number (node.id + 1) (some node.id) (node.depth + 1) ⊆
      (ofGrove region grove).nodes) :
    (ofGrove region grove).subtree node.id = Set.Ico node.id (node.id + (below.size + 1)) := by
  ext id
  have hblock := descendants_ofGrove hnode hchildren hbelow id
  rw [subtree, Set.mem_ofPred_eq, hblock, Set.mem_Ico]
  omega

end Forest

namespace CallGraph

/-- **Copies of one function look the same.** The subtrees of two copies have equally many nodes,
which stand in one block each, and node by node they have the same functions, the same children and
the same depths, as they are seen from the two copies. -/
theorem subtree_expand (region : String) (history : List GraphStep) (forest : Forest)
    (hforest : (ofHistory region history).expand = .ok forest) (i j : Nat)
    (node other : BranchNode) (hnode : forest.nodes[i]? = some node)
    (hother : forest.nodes[j]? = some other) (hsource : node.source = other.source) :
    ∃ size, forest.subtree i = Set.Ico i (i + size) ∧ forest.subtree j = Set.Ico j (j + size) ∧
      ∀ k < size, ∃ copy copy',
        forest.nodes[i + k]? = some copy ∧ forest.nodes[j + k]? = some copy' ∧
          copy.seenFrom i node.depth = copy'.seenFrom j other.depth := by
  have hgraph := wellFormed_ofHistory region history
  obtain ⟨grove, rfl, hgrove, -⟩ := hgraph.exists_unfolds_of_expand_eq_ok hforest
  obtain rfl := Forest.id_eq_ofGrove hnode
  obtain rfl := Forest.id_eq_ofGrove hother
  have hmem := List.mem_of_getElem? hnode
  have hmem' := List.mem_of_getElem? hother
  obtain ⟨below, htree, hchildren, hbelow⟩ := Grove.exists_below_of_mem_number hmem
  obtain ⟨below', htree', hchildren', hbelow'⟩ := Grove.exists_below_of_mem_number hmem'
  -- Both copies have the one unfolding of what their function calls below them.
  have hunfolds := hgrove.below_of_mem_trees htree
  rw [hsource] at hunfolds
  obtain rfl : below = below' := hunfolds.unique (hgrove.below_of_mem_trees htree')
  refine ⟨below.size + 1, Forest.subtree_ofGrove hmem hchildren hbelow,
    Forest.subtree_ofGrove hmem' hchildren' hbelow', fun k hk => ?_⟩
  -- Seen from the copies, the two blocks are one list.
  have hblock := Grove.map_seenFrom_block hchildren
  rw [hsource, ← Grove.map_seenFrom_block hchildren'] at hblock
  have hseen := congrArg (·[k]?) hblock
  rw [← below.length_block node] at hk
  have hcopy := List.getElem?_eq_getElem hk
  simp only [List.getElem?_map, hcopy, Option.map_some] at hseen
  obtain ⟨copy', hcopy', hsame⟩ := Option.map_eq_some_iff.1 hseen.symm
  rw [Grove.length_block] at hk
  refine ⟨_, copy', ?_, ?_, hsame.symm⟩
  · rw [Forest.getElem?_block (List.cons_subset.2 ⟨hmem, hbelow⟩) hk, hcopy]
  · rw [Forest.getElem?_block (List.cons_subset.2 ⟨hmem', hbelow'⟩) hk, hcopy']

/-- A function that is called at two depths. -/
def sharedDeeper : List GraphStep :=
  [.addEdge "main" "shared", .addEdge "main" "mid", .addEdge "mid" "shared",
    .addEdge "shared" "x", .addEdge "shared" "y", .addEdge "y" "z"]

/-- The copies below both callers have the same subtrees, one of them one level deeper. -/
theorem subtree_expand_sharedDeeper :
    ∃ forest : Forest, (ofHistory "main" sharedDeeper).expand = .ok forest ∧
      forest.nodes[1]? = some ⟨1, "shared", some 0, [2, 3], 1, .plain "shared"⟩ ∧
      forest.nodes[6]? = some ⟨6, "shared", some 5, [7, 8], 2, .plain "shared"⟩ ∧
      ∃ size, forest.subtree 1 = Set.Ico 1 (1 + size) ∧ forest.subtree 6 = Set.Ico 6 (6 + size) ∧
        ∀ k < size, ∃ copy copy',
          forest.nodes[1 + k]? = some copy ∧ forest.nodes[6 + k]? = some copy' ∧
            copy.seenFrom 1 1 = copy'.seenFrom 6 2 := by
  have hforest : (ofHistory "main" sharedDeeper).expand = .ok (.ofGrove "main"
      (.plant "main"
        (.plant "shared" (.plant "x" .bare (.plant "y" (.plant "z" .bare .bare) .bare))
          (.plant "mid"
            (.plant "shared" (.plant "x" .bare (.plant "y" (.plant "z" .bare .bare) .bare)) .bare)
            .bare)) .bare)) := by cbv
  exact ⟨_, hforest, rfl, rfl, subtree_expand _ _ _ hforest 1 6 _ _ rfl rfl rfl⟩

end CallGraph

end CallForest
