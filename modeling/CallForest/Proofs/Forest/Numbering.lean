import CallForest.Forest.Basic
import Mathlib.Data.List.Basic

/-! # Numbered groves

The nodes of a numbered grove stand at their own numbers, and hold the functions of the grove in
preorder. What is known of a numbered grove is proved for any position it can have among the nodes
of a larger forest, and comes down to the forest of a grove in the end. -/

namespace CallForest

namespace Grove

/-- There are as many numbered nodes as nodes. -/
@[simp] theorem length_number (grove : Grove) (start : Nat) (parent : Option Nat) (depth : Nat) :
    (grove.number start parent depth).length = grove.size := by
  induction grove generalizing start parent depth with
  | bare => rfl
  | plant source below next ihbelow ihnext =>
      simp only [number, List.length_cons, List.length_append, ihbelow, ihnext, size]
      omega

/-- The numbers below and after the first node of a grove. -/
theorem range'_size_plant (start : Nat) (source : String) (below next : Grove) :
    List.range' start (plant source below next).size =
      start :: (List.range' (start + 1) below.size ++
        List.range' (start + 1 + below.size) next.size) := by
  rw [size, List.range'_append_1, ← List.range'_succ]
  congr 1
  omega

/-- The nodes are numbered one after the other. -/
theorem map_id_number (grove : Grove) (start : Nat) (parent : Option Nat) (depth : Nat) :
    (grove.number start parent depth).map (·.id) = List.range' start grove.size := by
  induction grove generalizing start parent depth with
  | bare => rfl
  | plant source below next ihbelow ihnext =>
      rw [number, List.map_cons, List.map_append, ihbelow, ihnext, range'_size_plant]

/-- The nodes are copies of the functions of the grove, in preorder. -/
theorem map_source_number (grove : Grove) (start : Nat) (parent : Option Nat) (depth : Nat) :
    (grove.number start parent depth).map (·.source) = grove.sources := by
  induction grove generalizing start parent depth with
  | bare => rfl
  | plant source below next ihbelow ihnext =>
      rw [number, List.map_cons, List.map_append, ihbelow, ihnext, sources]

end Grove

namespace Forest

/-- The forest of a grove has its nodes. -/
@[simp] theorem size_ofGrove (region : String) (grove : Grove) :
    (ofGrove region grove).size = grove.size :=
  grove.length_number 0 none 0

end Forest

end CallForest
