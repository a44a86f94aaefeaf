import CallForest.Proofs.Forest.Paths
import CallForest.Proofs.Forest.Shape

/-! # Forests in preorder

A forest says twice how its nodes hang together: every node knows its parent, and every node knows
its children. In the forest of a grove both say the same, the nodes stand in preorder, and a node
and its descendants stand in one block.

* `Forest.IsParent`, `Forest.WellFormed`: parents, and forests in preorder whose two sides agree.
* `Grove.exists_below_of_mem_number`, `Grove.parent_of_mem_number`: what stands below a node of a
  numbered grove, and above it.
* `Forest.descendants_ofGrove`: a node and its descendants stand in one block.
* `CallGraph.wellFormed_of_expand`: a call graph expands into a well-formed forest. -/

namespace CallForest

open Relation

namespace Forest

/-- One node is the **parent** of another, as the other one has it. -/
def IsParent (forest : Forest) (parent child : Nat) : Prop :=
  ∃ node ∈ forest.nodes, node.id = child ∧ node.parent = some parent

/-- A **well-formed forest**: parents and children tell the same about it, and its nodes stand in
preorder. -/
structure WellFormed (forest : Forest) : Prop where
  /-- Every node stands at its own number. -/
  id_eq : ∀ (id : Nat) (node : BranchNode), forest.nodes[id]? = some node → node.id = id
  /-- The roots are the nodes without a parent. -/
  mem_roots_iff : ∀ id, id ∈ forest.roots ↔ ∃ node ∈ forest.nodes, node.id = id ∧ node.parent = none
  /-- The roots stand in ascending order. -/
  roots_increasing : forest.roots.Pairwise (· < ·)
  /-- A parent is a node that stands before its child. -/
  parent_lt : ∀ node ∈ forest.nodes, ∀ parent, node.parent = some parent → parent < node.id
  /-- A node is listed once among the children of its parent, and not among those of any other. -/
  count_children : ∀ node ∈ forest.nodes, ∀ other ∈ forest.nodes,
    other.children.count node.id = if node.parent = some other.id then 1 else 0
  /-- Only nodes are listed as children. -/
  child_lt : ∀ node ∈ forest.nodes, ∀ child ∈ node.children, child < forest.size
  /-- The children of a node stand in ascending order. -/
  children_increasing : ∀ node ∈ forest.nodes, node.children.Pairwise (· < ·)
  /-- Roots have depth zero. -/
  depth_root : ∀ node ∈ forest.nodes, node.parent = none → node.depth = 0
  /-- A child is one deeper than its parent. -/
  depth_child : ∀ node ∈ forest.nodes, ∀ other ∈ forest.nodes,
    node.parent = some other.id → node.depth = other.depth + 1
  /-- A node and its descendants are all nodes from its own number up to some other one. -/
  descendants : ∀ node ∈ forest.nodes, ∃ last, node.id ≤ last ∧ last < forest.size ∧
    ∀ id, ReflTransGen forest.IsParent node.id id ↔ node.id ≤ id ∧ id ≤ last
  /-- There are as many edges from parents to children as nodes with a parent. -/
  length_edges : forest.edges.length = forest.edgeCount
  /-- Every node is a root or has a parent. -/
  edgeCount_add_roots : forest.edgeCount + forest.roots.length = forest.size
  /-- The chain of parents of a node ends at a root, after as many steps as the node is deep. -/
  path : ∀ node ∈ forest.nodes, ∃ path,
    forest.pathTo? node.id = some path ∧ path.length = node.depth + 1

end Forest

namespace Grove

variable {grove : Grove} {start depth : Nat} {parent : Option Nat} {node : BranchNode}

/-! ### Roots of trees -/

/-- The trees of a grove start within its numbers. -/
theorem mem_range'_of_mem_starts {root : Nat} (hroot : root ∈ grove.starts start) :
    start ≤ root ∧ root < start + grove.size := by
  induction grove generalizing start with
  | bare => cases hroot
  | plant source below next ihbelow ihnext =>
      rw [size]
      rcases List.mem_cons.1 hroot with rfl | hroot
      · omega
      · have hlater := ihnext hroot
        omega

/-- The trees of a grove start one after the other. -/
theorem pairwise_starts (grove : Grove) (start : Nat) :
    (grove.starts start).Pairwise (· < ·) := by
  induction grove generalizing start with
  | bare => exact .nil
  | plant source below next ihbelow ihnext =>
      refine List.pairwise_cons.2 ⟨fun root hroot => ?_, ihnext _⟩
      have hlater := mem_range'_of_mem_starts hroot
      omega

/-- Where a tree of the grove starts, there is a node right below the parent. -/
theorem exists_node_of_mem_starts {root : Nat} (hroot : root ∈ grove.starts start) :
    ∃ node ∈ grove.number start parent depth, node.id = root ∧ node.parent = parent := by
  induction grove generalizing start with
  | bare => cases hroot
  | plant source below next ihbelow ihnext =>
      rcases List.mem_cons.1 hroot with rfl | hroot
      · exact ⟨_, List.mem_cons_self, rfl, rfl⟩
      · obtain ⟨node, hnode, hid⟩ := ihnext hroot
        exact ⟨node, .tail _ (List.mem_append_right _ hnode), hid⟩

/-- A node has a number of the grove. -/
theorem mem_range'_of_mem_number (hnode : node ∈ grove.number start parent depth) :
    start ≤ node.id ∧ node.id < start + grove.size := by
  rw [← List.mem_range'_1, ← grove.map_id_number start parent depth]
  exact List.mem_map_of_mem hnode

/-- Every number of the grove is that of a node. -/
theorem exists_node_of_lt (grove : Grove) {start id : Nat} (parent : Option Nat) (depth : Nat)
    (hstart : start ≤ id) (hid : id < start + grove.size) :
    ∃ node ∈ grove.number start parent depth, node.id = id := by
  have hmem : id ∈ (grove.number start parent depth).map (·.id) := by
    rw [map_id_number, List.mem_range'_1]
    exact ⟨hstart, hid⟩
  exact List.mem_map.1 hmem

/-! ### Above and below a node -/

/-- **Above a node** stands the parent of the grove, or a node of the grove that lists it among its
children. -/
theorem parent_of_mem_number (hnode : node ∈ grove.number start parent depth) :
    (node.id ∈ grove.starts start ∧ node.parent = parent ∧ node.depth = depth) ∨
      ∃ above ∈ grove.number start parent depth, node.parent = some above.id ∧
        node.id ∈ above.children ∧ node.depth = above.depth + 1 ∧ above.id < node.id := by
  induction grove generalizing start parent depth with
  | bare => cases hnode
  | plant source below next ihbelow ihnext =>
      rcases List.mem_cons.1 hnode with rfl | hrest
      · exact .inl ⟨List.mem_cons_self, rfl, rfl⟩
      rcases List.mem_append.1 hrest with hbelow | hnext
      -- Right below the first node, or deeper down.
      · right
        rcases ihbelow hbelow with ⟨hroot, hparent, hdepth⟩ | ⟨above, habove, hparent⟩
        · have hlater := mem_range'_of_mem_starts hroot
          exact ⟨_, List.mem_cons_self, hparent, hroot, hdepth, by simp only; omega⟩
        · exact ⟨above, .tail _ (List.mem_append_left _ habove), hparent⟩
      · rcases ihnext hnext with ⟨hroot, hparent⟩ | ⟨above, habove, hparent⟩
        · exact .inl ⟨.tail _ hroot, hparent⟩
        · exact .inr ⟨above, .tail _ (List.mem_append_right _ habove), hparent⟩

/-- The trees of a grove at all its nodes: the function at each node, and the trees under it. -/
def trees : Grove → List (String × Grove)
  | bare => []
  | plant source below next => (source, below) :: (below.trees ++ next.trees)

/-- **Below a node** stands the grove that its tree has there, numbered from the next number on. -/
theorem exists_below_of_mem_number (hnode : node ∈ grove.number start parent depth) :
    ∃ below : Grove, (node.source, below) ∈ grove.trees ∧
      node.children = below.starts (node.id + 1) ∧
      below.number (node.id + 1) (some node.id) (node.depth + 1) ⊆
        grove.number start parent depth := by
  induction grove generalizing start parent depth with
  | bare => cases hnode
  | plant source below next ihbelow ihnext =>
      rcases List.mem_cons.1 hnode with rfl | hrest
      · exact ⟨below, List.mem_cons_self, rfl,
          fun _ hinner => .tail _ (List.mem_append_left _ hinner)⟩
      rcases List.mem_append.1 hrest with hbelow | hnext
      · obtain ⟨inner, htree, hchildren, hinner⟩ := ihbelow hbelow
        exact ⟨inner, .tail _ (List.mem_append_left _ htree), hchildren,
          fun _ h => .tail _ (List.mem_append_left _ (hinner h))⟩
      · obtain ⟨inner, htree, hchildren, hinner⟩ := ihnext hnext
        exact ⟨inner, .tail _ (List.mem_append_right _ htree), hchildren,
          fun _ h => .tail _ (List.mem_append_right _ (hinner h))⟩

/-- A child that a node lists is a node of the grove, and has it as its parent. -/
theorem exists_child_of_mem_number {child : Nat} (hnode : node ∈ grove.number start parent depth)
    (hchild : child ∈ node.children) :
    ∃ inner ∈ grove.number start parent depth, inner.id = child ∧
      inner.parent = some node.id := by
  obtain ⟨below, -, hchildren, hbelow⟩ := exists_below_of_mem_number hnode
  rw [hchildren] at hchild
  obtain ⟨inner, hinner, hid⟩ := exists_node_of_mem_starts hchild
  exact ⟨inner, hbelow hinner, hid⟩

/-- All nodes of a grove below a parent are descendants of that parent, in every forest that has
them. -/
theorem transGen_of_mem_number {forest : Forest} {above : Nat}
    (hforest : grove.number start (some above) depth ⊆ forest.nodes)
    (hnode : node ∈ grove.number start (some above) depth) :
    TransGen forest.IsParent above node.id := by
  induction grove generalizing start above depth with
  | bare => cases hnode
  | plant source below next ihbelow ihnext =>
      obtain ⟨hfirst, hrest⟩ := List.cons_subset.1 hforest
      obtain ⟨hbelow, hnext⟩ := List.append_subset.1 hrest
      have hself : forest.IsParent above start := ⟨_, hfirst, rfl, rfl⟩
      rcases List.mem_cons.1 hnode with rfl | hnode
      · exact .single hself
      rcases List.mem_append.1 hnode with hnode | hnode
      · exact .head hself (ihbelow hbelow hnode)
      · exact ihnext hnext hnode

end Grove

namespace Forest

variable {region : String} {grove : Grove} {node other : BranchNode}

/-! ### The forest of a grove -/

/-- In the forest of a grove no two nodes have the same number. -/
theorem eq_of_id_eq (hnode : node ∈ (ofGrove region grove).nodes)
    (hother : other ∈ (ofGrove region grove).nodes) (hid : node.id = other.id) : node = other :=
  List.inj_on_of_nodup_map (nodup_ids_ofGrove region grove) hnode hother hid

/-- What has a parent is a child of its parent. -/
theorem IsParent.mem_children {above id : Nat} (hparent : (ofGrove region grove).IsParent above id)
    (hnode : node ∈ (ofGrove region grove).nodes) (hid : node.id = above) :
    id ∈ node.children := by
  obtain ⟨child, hchild, rfl, habove⟩ := hparent
  rcases Grove.parent_of_mem_number hchild with ⟨-, hnone, -⟩ | ⟨above', habove', hsome, hlisted, -⟩
  · rw [habove] at hnone
    cases hnone
  · have hsame : above'.id = node.id := by
      rw [hid]
      exact Option.some.inj (hsome.symm.trans habove)
    rwa [← eq_of_id_eq habove' hnode hsame]

/-- **A node and its descendants stand in one block**: the node, and then the trees below it. -/
theorem descendants_ofGrove {below : Grove} (hnode : node ∈ (ofGrove region grove).nodes)
    (hchildren : node.children = below.starts (node.id + 1))
    (hbelow : below.number (node.id + 1) (some node.id) (node.depth + 1) ⊆
      (ofGrove region grove).nodes) (id : Nat) :
    ReflTransGen (ofGrove region grove).IsParent node.id id ↔
      node.id ≤ id ∧ id ≤ node.id + below.size := by
  constructor
  -- A child of a node of the block is in the block: a child of the node itself starts a tree below
  -- it, and all others are children of nodes below.
  · intro hwalk
    induction hwalk with
    | refl => omega
    | @tail above id hwalk hparent ih =>
        rcases Nat.eq_or_lt_of_le ih.1 with hself | hless
        · have hchild := hparent.mem_children hnode hself
          rw [hchildren] at hchild
          have hrange := Grove.mem_range'_of_mem_starts hchild
          omega
        · obtain ⟨inner, hinner, hid⟩ :=
            below.exists_node_of_lt (some node.id) (node.depth + 1) hless (by omega)
          have hchild := hparent.mem_children (hbelow hinner) hid
          obtain ⟨child, hmem, rfl, -⟩ := Grove.exists_child_of_mem_number hinner hchild
          have hrange := Grove.mem_range'_of_mem_number hmem
          omega
  · rintro ⟨hfirst, hlast⟩
    rcases Nat.eq_or_lt_of_le hfirst with rfl | hless
    · exact .refl
    · obtain ⟨inner, hinner, rfl⟩ :=
        below.exists_node_of_lt (some node.id) (node.depth + 1) hless (by omega)
      exact (Grove.transGen_of_mem_number hbelow hinner).to_reflTransGen

/-- The block of a node and its descendants ends within the forest. -/
theorem exists_block_ofGrove (hnode : node ∈ (ofGrove region grove).nodes) :
    ∃ last, node.id ≤ last ∧ last < (ofGrove region grove).size ∧
      ∀ id, ReflTransGen (ofGrove region grove).IsParent node.id id ↔
        node.id ≤ id ∧ id ≤ last := by
  obtain ⟨below, -, hchildren, hbelow⟩ := Grove.exists_below_of_mem_number hnode
  refine ⟨node.id + below.size, Nat.le_add_right _ _, ?_,
    descendants_ofGrove hnode hchildren hbelow⟩
  -- The last number of the grove below is that of a node.
  cases hsize : below.size with
  | zero => simpa using (Grove.mem_range'_of_mem_number hnode).2
  | succ count =>
      have hfirst : node.id + 1 ≤ node.id + (count + 1) := by omega
      obtain ⟨inner, hinner, hid⟩ :=
        below.exists_node_of_lt (some node.id) (node.depth + 1) hfirst (by omega)
      have hlast := (Grove.mem_range'_of_mem_number (hbelow hinner)).2
      rw [size_ofGrove]
      omega

/-- A node is listed once among the children of its parent, and not among those of any other. -/
theorem count_children_ofGrove (hnode : node ∈ (ofGrove region grove).nodes)
    (hother : other ∈ (ofGrove region grove).nodes) :
    other.children.count node.id = if node.parent = some other.id then 1 else 0 := by
  obtain ⟨below, -, hchildren, -⟩ := Grove.exists_below_of_mem_number hother
  split
  · rename_i hparent
    have hlisted : node.id ∈ other.children :=
      IsParent.mem_children ⟨node, hnode, rfl, hparent⟩ hother rfl
    have hnodup : other.children.Nodup := by
      rw [hchildren]
      exact (below.pairwise_starts _).imp Nat.ne_of_lt
    exact List.count_eq_one_of_mem hnodup hlisted
  · rename_i hparent
    refine List.count_eq_zero.2 fun hlisted => hparent ?_
    obtain ⟨child, hchild, hid, habove⟩ := Grove.exists_child_of_mem_number hother hlisted
    rwa [eq_of_id_eq hchild hnode hid] at habove

/-- The nodes of a grove's forest stand at their own numbers. -/
theorem id_eq_ofGrove {id : Nat} (hnode : (ofGrove region grove).nodes[id]? = some node) :
    node.id = id := by
  have hid : ((ofGrove region grove).nodes.map (·.id))[id]? = some node.id := by
    rw [List.getElem?_map, hnode, Option.map_some]
  rw [ofGrove, Grove.map_id_number] at hid
  obtain ⟨hless, hvalue⟩ := List.getElem?_eq_some_iff.1 hid
  rw [List.getElem_range'] at hvalue
  omega

/-- Every node of a grove's forest is found at its own number. -/
theorem getElem?_ofGrove (hnode : node ∈ (ofGrove region grove).nodes) :
    (ofGrove region grove).nodes[node.id]? = some node := by
  obtain ⟨position, hposition⟩ := List.getElem?_of_mem hnode
  rwa [id_eq_ofGrove hposition]

/-- The chain of parents ends at a root, after as many steps as the node is deep. -/
theorem exists_pathTo?_ofGrove (hnode : node ∈ (ofGrove region grove).nodes) :
    ∃ path, (ofGrove region grove).pathTo? node.id = some path ∧
      path.length = node.depth + 1 := by
  -- The induction is on the number: a parent stands before its child.
  induction hid : node.id using Nat.strong_induction_on generalizing node with
  | _ id ih =>
    have hposition := hid ▸ getElem?_ofGrove hnode
    rcases Grove.parent_of_mem_number hnode with
      ⟨-, hparent, hdepth⟩ | ⟨above, habove, hparent, -, hdepth, hless⟩
    · have habove : (ofGrove region grove).Above id [] node.parent := by
        rw [hparent]
        exact rfl
      exact ⟨_, pathTo?_of_above hposition habove, by rw [hdepth]; rfl⟩
    · obtain ⟨path, hpath, hlength⟩ := ih above.id (hid ▸ hless) habove rfl
      have hchain := pathTo?_of_above hposition (by rw [hparent]; exact ⟨hid ▸ hless, hpath⟩)
      exact ⟨_, hchain, by rw [List.length_append, hlength, hdepth, List.length_singleton]⟩

/-- **The forest of a grove is well-formed.** -/
theorem wellFormed_ofGrove (region : String) (grove : Grove) :
    (ofGrove region grove).WellFormed where
  id_eq _ _ := id_eq_ofGrove
  mem_roots_iff id := by
    refine ⟨Grove.exists_node_of_mem_starts, ?_⟩
    rintro ⟨node, hnode, rfl, hnone⟩
    rcases Grove.parent_of_mem_number hnode with ⟨hroot, -⟩ | ⟨above, -, hparent, -⟩
    · exact hroot
    · rw [hnone] at hparent
      cases hparent
  roots_increasing := grove.pairwise_starts 0
  parent_lt node hnode parent hparent := by
    rcases Grove.parent_of_mem_number hnode with ⟨-, hnone, -⟩ | ⟨above, -, habove, -, -, hless⟩
    · rw [hparent] at hnone
      cases hnone
    · rwa [Option.some.inj (hparent.symm.trans habove)]
  count_children _ hnode _ hother := count_children_ofGrove hnode hother
  child_lt node hnode child hchild := by
    obtain ⟨inner, hinner, rfl, -⟩ := Grove.exists_child_of_mem_number hnode hchild
    simpa using (Grove.mem_range'_of_mem_number hinner).2
  children_increasing node hnode := by
    obtain ⟨below, -, hchildren, -⟩ := Grove.exists_below_of_mem_number hnode
    rw [hchildren]
    exact below.pairwise_starts _
  depth_root node hnode hnone := by
    rcases Grove.parent_of_mem_number hnode with ⟨-, -, hdepth⟩ | ⟨above, -, hparent, -⟩
    · exact hdepth
    · rw [hnone] at hparent
      cases hparent
  depth_child node hnode other hother hparent := by
    rcases Grove.parent_of_mem_number hnode with
      ⟨-, hnone, -⟩ | ⟨above, habove, hsome, -, hdepth, -⟩
    · rw [hparent] at hnone
      cases hnone
    · have hsame := eq_of_id_eq habove hother (Option.some.inj (hsome.symm.trans hparent))
      rw [hdepth, hsame]
  descendants _ hnode := exists_block_ofGrove hnode
  length_edges := length_edges_ofGrove region grove
  edgeCount_add_roots := by
    have hroots : (ofGrove region grove).roots.length = grove.width := grove.length_starts 0
    rw [hroots, edgeCount_add_width]
  path _ hnode := exists_pathTo?_ofGrove hnode

end Forest

namespace CallGraph

/-- **A call graph expands into a well-formed forest**: however functions are shared, the nodes
stand in preorder, and parents and children agree. -/
theorem wellFormed_of_expand (graph : CallGraph) (forest : Forest)
    (hforest : graph.expand = .ok forest) : forest.WellFormed := by
  obtain ⟨grove, rfl⟩ := exists_grove_of_expand hforest
  exact Forest.wellFormed_ofGrove graph.region grove

/-- Two functions that nobody calls, and that share what they call. -/
def sharedBelow : List GraphStep :=
  [.addEdge "x" "shared", .addEdge "y" "shared", .addEdge "shared" "leaf"]

/-- What two trees share is copied into both, and the forest stays well-formed. -/
theorem wellFormed_of_expand_sharedBelow :
    ∃ forest : Forest, (ofHistory "main" sharedBelow).expand = .ok forest ∧ forest.WellFormed ∧
      forest.roots = [0, 3] ∧ forest.edges = [(0, 1), (1, 2), (3, 4), (4, 5)] := by
  have hforest : (ofHistory "main" sharedBelow).expand = .ok (.ofGrove "main"
      (.plant "x" (.plant "shared" (.plant "leaf" .bare .bare) .bare)
        (.plant "y" (.plant "shared" (.plant "leaf" .bare .bare) .bare) .bare))) := by cbv
  exact ⟨_, hforest, wellFormed_of_expand _ _ hforest, by decide, by decide⟩

end CallGraph

end CallForest
