/-! # Groves

A grove is an ordered list of call trees, each with a function at its root. It is the shape of an
expanded call graph before its nodes are numbered: `plant source below next` is the tree that has
`source` at its root and the trees of `below` under it, followed by the trees of `next`.

* `Grove`: ordered lists of trees.
* `Grove.size`, `Grove.sources`: the number of nodes, and their functions in preorder. -/

namespace CallForest

/-- An ordered list of call trees. -/
inductive Grove where
  /-- No tree. -/
  | bare
  /-- A first tree, with `source` at its root and `below` under it, and the trees after it. -/
  | plant (source : String) (below next : Grove)
  deriving DecidableEq, Repr

namespace Grove

/-- The number of nodes. -/
def size : Grove → Nat
  | bare => 0
  | plant _ below next => below.size + 1 + next.size

/-- The functions at the nodes, every node before those under it and each tree before the next. -/
def sources : Grove → List String
  | bare => []
  | plant source below next => source :: (below.sources ++ next.sources)

/-- The functions in preorder are as many as the nodes. -/
@[simp] theorem length_sources (grove : Grove) : grove.sources.length = grove.size := by
  induction grove with
  | bare => rfl
  | plant source below next below_ih next_ih => simp [sources, size, below_ih, next_ih]; omega

end Grove

end CallForest
