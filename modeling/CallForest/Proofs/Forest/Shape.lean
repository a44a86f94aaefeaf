import CallForest.Proofs.Forest.Numbering
import Mathlib.Algebra.GroupWithZero.Nat
import Mathlib.Data.List.Nodup

/-! # Shapes of groves

A grove is determined by its shape: its functions in preorder, each with the number of its children.
In the forest of a grove the shape can be read off the nodes and the edges, so forests whose nodes
have the same functions and whose edges are the same are the same.

* `Grove.shape`, `Grove.shape_injective`: the shape, and that it determines the grove.
* `Forest.edgeCount_add_width`, `Forest.length_edges_ofGrove`: two ways to count edges.
* `Forest.filter_edges`: the edges out of a node are its children.
* `Forest.eq_of_edges_ofGrove`: nodes and edges determine the grove. -/

namespace CallForest

namespace Grove

/-- The number of trees. -/
def width : Grove → Nat
  | bare => 0
  | plant _ _ next => next.width + 1

/-- The **shape** of a grove: the function at every node in preorder, each with the number of trees
right below it. -/
def shape : Grove → List (String × Nat)
  | bare => []
  | plant source below next => (source, below.width) :: (below.shape ++ next.shape)

/-- There is a start for every tree. -/
@[simp] theorem length_starts (grove : Grove) (start : Nat) :
    (grove.starts start).length = grove.width := by
  induction grove generalizing start with
  | bare => rfl
  | plant source below next ihbelow ihnext => rw [starts, List.length_cons, ihnext, width]

/-- Numbered nodes show the shape. -/
theorem map_shape_number (grove : Grove) (start : Nat) (parent : Option Nat) (depth : Nat) :
    (grove.number start parent depth).map (fun node => (node.source, node.children.length)) =
      grove.shape := by
  induction grove generalizing start parent depth with
  | bare => rfl
  | plant source below next ihbelow ihnext =>
      rw [number, List.map_cons, List.map_append, ihbelow, ihnext, length_starts, shape]

/-- Every node is the root of a tree or a child. -/
theorem width_add_sum_shape (grove : Grove) :
    grove.width + (grove.shape.map Prod.snd).sum = grove.size := by
  induction grove with
  | bare => rfl
  | plant source below next ihbelow ihnext =>
      rw [width, shape, List.map_cons, List.map_append, List.sum_cons, List.sum_append, size]
      omega

/-- There is an entry for every node. -/
theorem length_shape (grove : Grove) : grove.shape.length = grove.size := by
  rw [← grove.map_shape_number 0 none 0, List.length_map, length_number]

/-- **A shape and what stands behind it** are both found in the list they make, when it is known how
many trees there are. -/
theorem shape_append_inj {grove other : Grove} {rest rest' : List (String × Nat)}
    (hwidth : grove.width = other.width)
    (hshape : grove.shape ++ rest = other.shape ++ rest') : grove = other ∧ rest = rest' := by
  induction grove generalizing other rest rest' with
  | bare =>
      cases other with
      | bare => exact ⟨rfl, hshape⟩
      | plant source below next => cases hwidth
  | plant source below next ihbelow ihnext =>
      cases other with
      | bare => cases hwidth
      | plant source' below' next' =>
          rw [shape, shape, List.cons_append, List.cons_append, List.append_assoc,
            List.append_assoc] at hshape
          obtain ⟨hfirst, hrest⟩ := List.cons.inj hshape
          -- The first entry tells how many trees there are below, the width how many come after.
          obtain ⟨rfl, hbelow⟩ := Prod.mk.inj hfirst
          obtain ⟨rfl, hnext⟩ := ihbelow hbelow hrest
          obtain ⟨rfl, rfl⟩ := ihnext (Nat.succ.inj hwidth) hnext
          exact ⟨rfl, rfl⟩

/-- **The shape determines the grove.** -/
theorem shape_injective : Function.Injective shape := by
  intro grove other hshape
  -- What is not the child of a node is a tree of its own, so the shape tells the width, too.
  have hwidth : grove.width = other.width := by
    have hgrove := grove.width_add_sum_shape
    have hother := other.width_add_sum_shape
    rw [← length_shape, hshape] at hgrove
    rw [← length_shape] at hother
    omega
  have hnil : grove.shape ++ [] = other.shape ++ [] := by rw [hshape]
  exact (shape_append_inj hwidth hnil).1

/-- Below a parent every node has one, else all nodes but the roots of the trees. -/
theorem countP_parent_number (grove : Grove) (start : Nat) (parent : Option Nat) (depth : Nat) :
    (grove.number start parent depth).countP (·.parent.isSome) +
        (if parent.isSome then 0 else grove.width) = grove.size := by
  induction grove generalizing start parent depth with
  | bare => cases parent <;> rfl
  | plant source below next ihbelow ihnext =>
      have hbelow := ihbelow (start + 1) (some start) (depth + 1)
      have hnext := ihnext (start + 1 + below.size) parent depth
      rw [number, List.countP_cons, List.countP_append, width, size]
      cases parent <;> simp_all <;> omega

end Grove

namespace Forest

/-! ### Counting edges -/

/-- Every node of a grove's forest is the root of a tree or has a parent. -/
theorem edgeCount_add_width (region : String) (grove : Grove) :
    (ofGrove region grove).edgeCount + grove.width = (ofGrove region grove).size := by
  rw [size_ofGrove]
  exact grove.countP_parent_number 0 none 0

/-- **There are as many edges** as nodes with a parent. -/
theorem length_edges_ofGrove (region : String) (grove : Grove) :
    (ofGrove region grove).edges.length = (ofGrove region grove).edgeCount := by
  have hcount := edgeCount_add_width region grove
  have hshape := grove.width_add_sum_shape
  have hedges : (ofGrove region grove).edges.length = (grove.shape.map Prod.snd).sum := by
    rw [edges, List.length_flatMap, ← grove.map_shape_number 0 none 0, List.map_map]
    simp only [List.length_map]
    rfl
  rw [size_ofGrove] at hcount
  omega

/-! ### Edges and children -/

/-- **The edges out of a node** lead to its children, first to last, when no two nodes have the same
number. -/
theorem filter_edges {forest : Forest} {node : BranchNode}
    (hids : (forest.nodes.map (·.id)).Nodup) (hnode : node ∈ forest.nodes) :
    forest.edges.filter (·.1 = node.id) = node.children.map fun child => (node.id, child) := by
  obtain ⟨before, after, hnodes⟩ := List.append_of_mem hnode
  rw [hnodes, List.map_append, List.map_cons, List.nodup_middle, List.nodup_cons,
    ← List.map_append, List.mem_map, not_exists] at hids
  -- The edges out of other nodes are none of this node.
  have hnone : ∀ nodes : List BranchNode, (∀ other ∈ nodes, other ∈ before ++ after) →
      nodes.flatMap (fun other =>
        (other.children.map fun child => (other.id, child)).filter (·.1 = node.id)) = [] := by
    intro nodes hnodes
    refine List.flatMap_eq_nil_iff.2 fun other hother => ?_
    have hne : other.id ≠ node.id := fun hsame => hids.1 other ⟨hnodes other hother, hsame⟩
    simp [List.filter_map, Function.comp_def, hne]
  have hself : (node.children.map fun child => (node.id, child)).filter (·.1 = node.id) =
      node.children.map fun child => (node.id, child) := by
    simp [List.filter_map, Function.comp_def]
  rw [edges, hnodes, List.filter_flatMap, List.flatMap_append, List.flatMap_cons,
    hnone before fun _ => List.mem_append_left after,
    hnone after fun _ => List.mem_append_right before, hself, List.nil_append, List.append_nil]

/-- The nodes of a grove's forest have different numbers. -/
theorem nodup_ids_ofGrove (region : String) (grove : Grove) :
    ((ofGrove region grove).nodes.map (·.id)).Nodup := by
  rw [ofGrove, Grove.map_id_number]
  exact List.nodup_range'

/-- The shape of a grove, as its forest shows it: the function at every node, with the number of
edges out of the node. -/
theorem shape_eq_of_edges (region : String) (grove : Grove) :
    grove.shape = ((ofGrove region grove).nodes.map fun node => (node.id, node.source)).map
      fun name => (name.2, (ofGrove region grove).edges.countP (·.1 = name.1)) := by
  rw [← grove.map_shape_number 0 none 0, List.map_map]
  refine List.map_congr_left fun node hnode => ?_
  rw [Function.comp_apply, List.countP_eq_length_filter,
    filter_edges (nodup_ids_ofGrove region grove) hnode, List.length_map]

/-- **Nodes and edges determine a grove**: what is known of the nodes is the function at each of
them. -/
theorem eq_of_edges_ofGrove {region region' : String} {grove grove' : Grove}
    (hnames : (ofGrove region grove).nodes.map (fun node => (node.id, node.source)) =
      (ofGrove region' grove').nodes.map fun node => (node.id, node.source))
    (hedges : (ofGrove region grove).edges = (ofGrove region' grove').edges) : grove = grove' := by
  refine Grove.shape_injective ?_
  rw [shape_eq_of_edges region grove, shape_eq_of_edges region' grove', hnames, hedges]

end Forest

end CallForest
