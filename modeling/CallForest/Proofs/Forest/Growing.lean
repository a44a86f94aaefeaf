import CallForest.Proofs.Forest.Paths

/-! # Growing in place

A forest can be grown in place, one node after the other: a node is pushed behind all others, and
the node above it gets one more child. Pushing a tree node by node comes to the same as numbering
it as a whole, and leaves the way to every node that was there before.

* `Forest.push?`: a forest with one more node.
* `Forest.grown`, `Forest.extended`: a forest in which trees have grown below a node, or as new
  roots.
* `Forest.grown_plant`, `Forest.extended_plant`: a tree grows from its root on, and before those
  that come after it.
* `Forest.pathTo?_grown`: the paths to the other nodes are left as they are. -/

namespace CallForest

/-! ### Pushing nodes -/

/-- A node as it is pushed, without children. -/
def BranchNode.bud (id : Nat) (source : String) (parent : Option Nat) (depth : Nat) : BranchNode :=
  ⟨id, source, parent, [], depth, .plain source⟩

/-- A node with more children. -/
def BranchNode.adopt (node : BranchNode) (children : List Nat) : BranchNode :=
  { node with children := node.children ++ children }

/-- A forest with one **more node**, below another one if that is given, which must be there. -/
def Forest.push? (forest : Forest) (source : String) : Option Nat → Option Forest
  | none => some { forest with nodes := forest.nodes ++ [BranchNode.bud forest.size source none 0] }
  | some parent =>
    forest.nodes[parent]?.map fun above =>
      { forest with
        nodes := (forest.nodes ++ [BranchNode.bud forest.size source (some parent)
          (above.depth + 1)]).modify parent (·.adopt [forest.size]) }

section

variable {α : Type} {before after : List α} {change : α → α} {element : α} {position : Nat}

/-- A change in front of an end leaves the end. -/
theorem modify_append_of_lt (hposition : position < before.length) :
    (before ++ after).modify position change = before.modify position change ++ after := by
  induction before generalizing position with
  | nil => cases hposition
  | cons first before ih =>
      cases position with
      | zero => rfl
      | succ position =>
          rw [List.cons_append, List.modify_succ_cons, List.modify_succ_cons,
            ih (Nat.lt_of_succ_lt_succ hposition), List.cons_append]

/-- A change right behind some elements is a change of the next one. -/
theorem modify_append_length :
    (before ++ element :: after).modify before.length change =
      before ++ change element :: after := by
  induction before with
  | nil => rfl
  | cons first before ih =>
      rw [List.cons_append, List.length_cons, List.modify_succ_cons, ih, List.cons_append]

end

namespace Forest

variable {forest : Forest} {id depth : Nat} {grove : Grove} {source : String}

/-! ### Trees that grow -/

/-- A forest in which trees have **grown below a node**: they are numbered behind the other nodes,
and the node has their roots as further children. -/
def grown (forest : Forest) (id depth : Nat) (grove : Grove) : Forest :=
  { forest with nodes := forest.nodes.modify id (·.adopt (grove.starts forest.size)) ++
      grove.number forest.size (some id) depth }

/-- A forest in which trees have grown as **further roots**. -/
def extended (forest : Forest) (grove : Grove) : Forest :=
  { forest with
    nodes := forest.nodes ++ grove.number forest.size none 0
    roots := forest.roots ++ grove.starts forest.size }

/-- The nodes of a forest in which trees have grown below a node. -/
theorem nodes_grown : (forest.grown id depth grove).nodes =
    forest.nodes.modify id (·.adopt (grove.starts forest.size)) ++
      grove.number forest.size (some id) depth := rfl

/-- The nodes that have grown are added. -/
@[simp] theorem size_grown : (forest.grown id depth grove).size = forest.size + grove.size := by
  simp [grown, size]

/-- The nodes of further roots are added. -/
@[simp] theorem size_extended : (forest.extended grove).size = forest.size + grove.size := by
  simp [extended, size]

/-- Where nothing grows nothing changes. -/
theorem grown_bare : forest.grown id depth .bare = forest := by
  have hadopt : (fun node : BranchNode => node.adopt []) = fun node => node := by
    funext node
    simp [BranchNode.adopt]
  have hmodify : forest.nodes.modify id (fun node => node) = forest.nodes := List.modify_id id _
  simp only [grown, Grove.starts, Grove.number, hadopt, hmodify, List.append_nil]

/-- Without further roots nothing changes. -/
theorem extended_bare : forest.extended .bare = forest := by
  simp only [extended, Grove.starts, Grove.number, List.append_nil]

/-- The empty forest is extended to the forest of a grove. -/
theorem extended_empty (region : String) : (empty region).extended grove = ofGrove region grove :=
  rfl

/-- Pushing a node is growing one tree of this node. -/
theorem push?_eq_grown {above : BranchNode} (habove : forest.nodes[id]? = some above)
    (hdepth : above.depth + 1 = depth) :
    forest.push? source (some id) = some (forest.grown id depth (.plant source .bare .bare)) := by
  have hid : id < forest.nodes.length := (List.getElem?_eq_some_iff.1 habove).1
  rw [push?, habove, Option.map_some, modify_append_of_lt hid, hdepth]
  rfl

/-- What grows right below the last node makes it adopt, and stands behind it. -/
theorem nodes_grown_last {before : List BranchNode} {last : BranchNode}
    (hnodes : forest.nodes = before ++ [last]) (depth : Nat) (grove : Grove) :
    (forest.grown before.length depth grove).nodes =
      before ++ (last.adopt (grove.starts forest.size) ::
        grove.number forest.size (some before.length) depth) := by
  rw [nodes_grown, hnodes, modify_append_length, List.append_assoc, List.singleton_append]

/-- **A tree and those after it grow one after the other**: its root first, then what is below the
root, and then the others. -/
theorem grown_plant {below next : Grove} (hid : id < forest.size) :
    forest.grown id depth (.plant source below next) =
      ((forest.grown id depth (.plant source .bare .bare)).grown forest.size (depth + 1)
        below).grown id depth next := by
  let planted := forest.grown id depth (.plant source .bare .bare)
  let adopted := forest.nodes.modify id (·.adopt [forest.size])
  let root := BranchNode.bud forest.size source (some id) depth
  have hlength : adopted.length = forest.size := List.length_modify ..
  have hplanted : planted.nodes = adopted ++ [root] := rfl
  have hsize : planted.size = forest.size + 1 := size_grown
  have hbelow := nodes_grown_last hplanted (depth + 1) below
  rw [hlength] at hbelow
  have hadopt : ((·.adopt (next.starts (forest.size + 1 + below.size))) ∘ (·.adopt [forest.size]) :
      BranchNode → BranchNode) =
        (·.adopt (forest.size :: next.starts (forest.size + 1 + below.size))) := by
    funext node
    simp [BranchNode.adopt]
  refine congrArg (fun nodes => { forest with nodes }) ?_
  rw [hbelow, modify_append_of_lt (by rw [hlength]; exact hid), size_grown, hsize,
    List.modify_modify_eq, hadopt, Grove.number, Grove.starts, List.append_assoc]
  rfl

/-- A further root and what grows below it are a tree. -/
theorem extended_root {below : Grove} :
    (forest.extended (.plant source .bare .bare)).grown forest.size 1 below =
      forest.extended (.plant source below .bare) := by
  have hnodes : (forest.extended (.plant source .bare .bare)).nodes =
      forest.nodes ++ [BranchNode.bud forest.size source none 0] := rfl
  have hbelow := nodes_grown_last hnodes 1 below
  have hsize : (forest.extended (.plant source .bare .bare)).size = forest.size + 1 := size_extended
  refine congrArg (fun nodes => { forest.extended (.plant source .bare .bare) with nodes }) ?_
  show ((forest.extended (.plant source .bare .bare)).grown forest.nodes.length 1 below).nodes = _
  rw [hbelow, hsize, Grove.number, Grove.number, List.append_nil]
  rfl

/-- A tree of further roots grows from its root on, and the others after it. -/
theorem extended_plant {below next : Grove} :
    forest.extended (.plant source below next) =
      (forest.extended (.plant source below .bare)).extended next := by
  simp [extended, Grove.number, Grove.starts, size, Nat.add_assoc, Nat.add_comm]

/-! ### Paths while trees grow -/

/-- A node that is pushed stands behind all others. -/
theorem getElem?_grown_size :
    (forest.grown id depth (.plant source .bare .bare)).nodes[forest.size]? =
      some (BranchNode.bud forest.size source (some id) depth) := by
  have hlength : (forest.nodes.modify id (·.adopt [forest.size])).length = forest.size :=
    List.length_modify ..
  show (forest.nodes.modify id (·.adopt [forest.size]) ++
    [BranchNode.bud forest.size source (some id) depth])[forest.size]? = _
  rw [List.getElem?_append_right hlength.le, hlength, Nat.sub_self, List.getElem?_cons_zero]

/-- The path to a node depends on the nodes up to it only, and on these only by their functions and
parents. -/
theorem pathTo?_congr {other : Forest} {id : Nat}
    (hnodes : ∀ before ≤ id, (forest.nodes[before]?.map fun node => (node.source, node.parent)) =
      other.nodes[before]?.map fun node => (node.source, node.parent)) :
    forest.pathTo? id = other.pathTo? id := by
  induction id using Nat.strongRecOn with
  | ind id ih =>
      have hid := hnodes id le_rfl
      rw [pathTo?, pathTo?]
      cases hnode : forest.nodes[id]? with
      | none =>
          cases hother : other.nodes[id]? with
          | none => rfl
          | some node => simp [hnode, hother] at hid
      | some node =>
          cases hother : other.nodes[id]? with
          | none => simp [hnode, hother] at hid
          | some twin =>
              obtain ⟨hsource, hparent⟩ :
                  node.source = twin.source ∧ node.parent = twin.parent := by
                simpa [hnode, hother] using hid
              simp only [hsource, hparent]
              cases hchain : twin.parent with
              | none => rfl
              | some parent =>
                  by_cases hless : parent < id
                  · simp only [if_pos hless]
                    rw [ih parent hless fun before hbefore => hnodes before (by omega)]
                  · simp only [if_neg hless]

/-- A root that is pushed stands behind all others. -/
theorem getElem?_extended_size :
    (forest.extended (.plant source .bare .bare)).nodes[forest.size]? =
      some (BranchNode.bud forest.size source none 0) := by
  show (forest.nodes ++ [BranchNode.bud forest.size source none 0])[forest.nodes.length]? = _
  rw [List.getElem?_concat_length]

/-- A node that was there keeps all but its children while trees grow. -/
theorem exists_getElem?_grown {other : Nat} {node : BranchNode}
    (hnode : forest.nodes[other]? = some node) (id depth : Nat) (grove : Grove) :
    ∃ children,
      (forest.grown id depth grove).nodes[other]? = some { node with children } := by
  have hother : other < forest.nodes.length := (List.getElem?_eq_some_iff.1 hnode).1
  rw [nodes_grown, List.getElem?_append_left (by simpa using hother), List.getElem?_modify, hnode]
  by_cases hsame : id = other
  · exact ⟨node.children ++ grove.starts forest.size, by simp [hsame, BranchNode.adopt]⟩
  · exact ⟨node.children, by simp [hsame]⟩

/-- **The path to a node that was there is left as it is** while trees grow. -/
theorem pathTo?_grown {other : Nat} (hother : other < forest.size) :
    (forest.grown id depth grove).pathTo? other = forest.pathTo? other := by
  refine pathTo?_congr fun before hbefore => ?_
  have hless : before < forest.nodes.length := hbefore.trans_lt hother
  have hnode : forest.nodes[before]? = some forest.nodes[before] := List.getElem?_eq_getElem hless
  obtain ⟨children, hgrown⟩ := exists_getElem?_grown hnode id depth grove
  rw [hgrown, hnode]
  rfl

end Forest

end CallForest
