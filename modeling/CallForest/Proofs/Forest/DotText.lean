import CallForest.Proofs.Forest.DotLine
import CallForest.Proofs.Forest.Expansion
import CallForest.Proofs.Forest.Shape
import Mathlib.Data.List.Forall2

/-! # Reading DOT text back

No line of a DOT text contains a newline, so the text splits into its lines again. What the lines
tell, the functions and attributes of the nodes and the edges between them, is all that there is to
know of the forest of a grove.

* `textLines`, `Forest.textLines_dotText`: a text splits into the lines that it was made of.
* `Forest.dotText_inj`: what two forests with the same text have in common.
* `Forest.paint`: a forest drawn with any attributes.
* `CallGraph.dotText_expand`: the text of an expanded call graph determines its forest. -/

namespace CallForest

/-! ### Lines and texts -/

/-- The lines of a text: what stands before, between and behind its newlines. -/
def textLines (text : String) : List String := (text.split '\n').toList.map (·.copy)

namespace Forest

/-- No line contains a newline, whatever the forest and its caption are made of. -/
theorem newline_not_mem_of_mem_dotLines {forest : Forest} {caption line : String}
    (hline : line ∈ forest.dotLines caption) : '\n' ∉ line.toList := by
  simp only [dotLines, List.mem_append, List.mem_cons, List.mem_map, List.not_mem_nil, or_false]
    at hline
  rcases hline with (((hhead | ⟨node, -, rfl⟩) | rfl) | ⟨edge, -, rfl⟩) | rfl | rfl
  · rcases hhead with rfl | rfl | rfl | rfl | rfl | rfl | rfl
    all_goals simp [newline_not_mem_dotAttribute, Label.newline_not_mem_quote]
  · exact node.newline_not_mem_dotLine
  · decide
  · exact newline_not_mem_dotEdgeLine edge
  · decide
  · decide

/-- **A text splits at newlines into its lines.** -/
theorem textLines_dotText (forest : Forest) (caption : String) :
    textLines (forest.dotText caption) = forest.dotLines caption := by
  have hsplit := String.toList_split_intercalate (c := '\n') (l := forest.dotLines caption)
    fun _ => newline_not_mem_of_mem_dotLines
  rw [if_neg (by simp [dotLines])] at hsplit
  exact hsplit

/-- Lines are as many as nodes and edges, and ten more. -/
theorem length_dotLines (forest : Forest) (caption : String) :
    (forest.dotLines caption).length = 10 + forest.size + forest.edges.length := by
  simp only [dotLines, List.length_append, List.length_cons, List.length_nil, List.length_map, size]
  omega

/-- **What forests with the same text have in common**: caption and region, the number, function and
attributes of every node, and the edges. -/
theorem dotText_inj {forest other : Forest} {caption caption' : String}
    (htext : forest.dotText caption = other.dotText caption') :
    caption = caption' ∧ forest.region = other.region ∧
      List.Forall₂ (fun node node' : BranchNode => node.id = node'.id ∧ node.source = node'.source ∧
        node.attributes = node'.attributes) forest.nodes other.nodes ∧
      forest.edges = other.edges := by
  have hlines : forest.dotLines caption = other.dotLines caption' := by
    rw [← textLines_dotText, htext, textLines_dotText]
  simp only [dotLines, List.cons_append, List.nil_append, List.append_assoc, List.cons.injEq,
    true_and] at hlines
  obtain ⟨hregion, hcaption, hrest⟩ := hlines
  -- The first empty line after the head is where the nodes end.
  have hnonempty : ∀ nodes : List BranchNode, ∀ line ∈ nodes.map BranchNode.dotLine, line ≠ "" := by
    intro nodes line hline
    obtain ⟨node, -, rfl⟩ := List.mem_map.1 hline
    exact node.dotLine_ne_empty
  obtain ⟨hnodes, -, hrest⟩ := append_cons_inj_of_forall (hnonempty forest.nodes) (not_not.2 rfl)
    (hnonempty other.nodes) (not_not.2 rfl) hrest
  refine ⟨?_, ?_, ?_, ?_⟩
  · rw [String.append_left_inj, String.append_right_inj, dotAttribute, dotAttribute,
      String.append_right_inj] at hcaption
    exact Label.quote_injective hcaption
  · rw [String.append_left_inj, String.append_right_inj] at hregion
    exact Label.quote_injective hregion
  · rw [← List.forall₂_eq_eq_eq, List.forall₂_map_left_iff, List.forall₂_map_right_iff] at hnodes
    exact hnodes.imp fun _ _ => BranchNode.dotLine_inj
  · exact List.map_injective_iff.2 dotEdgeLine_injective (List.append_cancel_right hrest)

end Forest

/-! ### Painted forests -/

namespace Forest

/-- **Paints** a forest: every node is drawn with the attributes given for its number, whatever its
function has. -/
def paint (forest : Forest) (attributes : Nat → Attributes) : Forest :=
  { forest with
    nodes := forest.nodes.map fun node => { node with attributes := attributes node.id } }

/-- Paint leaves the edges alone. -/
@[simp] theorem edges_paint (forest : Forest) (attributes : Nat → Attributes) :
    (forest.paint attributes).edges = forest.edges := by
  rw [edges, paint, List.flatMap_map]
  rfl

/-- Paint leaves the number of edges alone. -/
@[simp] theorem edgeCount_paint (forest : Forest) (attributes : Nat → Attributes) :
    (forest.paint attributes).edgeCount = forest.edgeCount := by
  rw [edgeCount, paint, List.countP_map]
  rfl

/-- **The text of a painted forest determines it**, when the forest is that of a grove. -/
theorem dotText_paint_inj {region region' : String} {grove grove' : Grove}
    {attributes attributes' : Nat → Attributes} {caption caption' : String}
    (htext : ((ofGrove region grove).paint attributes).dotText caption =
      ((ofGrove region' grove').paint attributes').dotText caption') :
    caption = caption' ∧
      (ofGrove region grove).paint attributes = (ofGrove region' grove').paint attributes' := by
  obtain ⟨hcaption, hregion, hnodes, hedges⟩ := dotText_inj htext
  rw [edges_paint, edges_paint] at hedges
  simp only [paint, List.forall₂_map_left_iff, List.forall₂_map_right_iff] at hregion hnodes
  have hnames : (ofGrove region grove).nodes.map (fun node => (node.id, node.source)) =
      (ofGrove region' grove').nodes.map fun node => (node.id, node.source) := by
    rw [← List.forall₂_eq_eq_eq, List.forall₂_map_left_iff, List.forall₂_map_right_iff]
    exact hnodes.imp fun _ _ hnode => Prod.ext hnode.1 hnode.2.1
  -- Nodes and edges are those of the forests below the paint, which are therefore the same.
  obtain rfl : region = region' := hregion
  obtain rfl := eq_of_edges_ofGrove hnames hedges
  refine ⟨hcaption, ?_⟩
  rw [List.forall₂_same] at hnodes
  have hpaint : (ofGrove region grove).nodes.map
      (fun node => { node with attributes := attributes node.id }) =
        (ofGrove region grove).nodes.map
          fun node => { node with attributes := attributes' node.id } :=
    List.map_congr_left fun node hnode => by rw [(hnodes node hnode).2.2]
  rw [paint, paint, hpaint]

end Forest

namespace CallGraph

/-- **The text of an expanded call graph loses nothing**, however its nodes are painted: two of them
are the same only when captions and forests are. Its lines are a head of seven, one for every node,
an empty one, one for every edge, and two at the end. -/
theorem dotText_expand (graph graph' : CallGraph) (forest forest' : Forest)
    (hforest : graph.expand = .ok forest) (hforest' : graph'.expand = .ok forest')
    (attributes attributes' : Nat → Attributes) (caption caption' : String) :
    ((forest.paint attributes).dotText caption = (forest'.paint attributes').dotText caption' →
      caption = caption' ∧ forest.paint attributes = forest'.paint attributes') ∧
    (textLines ((forest.paint attributes).dotText caption)).length =
      10 + (forest.paint attributes).size + (forest.paint attributes).edgeCount ∧
    (forest.paint attributes).edges.length = (forest.paint attributes).edgeCount ∧
    ∃ head : List String, head.length = 7 ∧
      textLines ((forest.paint attributes).dotText caption) =
        head ++ (forest.paint attributes).nodes.map BranchNode.dotLine ++ [""] ++
          (forest.paint attributes).edges.map dotEdgeLine ++ ["\x7d", ""] := by
  obtain ⟨grove, rfl⟩ := exists_grove_of_expand hforest
  obtain ⟨grove', rfl⟩ := exists_grove_of_expand hforest'
  have hcount : ((Forest.ofGrove graph.region grove).paint attributes).edges.length =
      ((Forest.ofGrove graph.region grove).paint attributes).edgeCount := by
    rw [Forest.edges_paint, Forest.edgeCount_paint, Forest.length_edges_ofGrove]
  refine ⟨Forest.dotText_paint_inj, ?_, hcount, ?_⟩
  · rw [Forest.textLines_dotText, Forest.length_dotLines, hcount]
  · rw [Forest.textLines_dotText, Forest.dotLines]
    exact ⟨_, rfl, rfl⟩

/-- A forest of functions whose names are full of marks that need an escape. -/
def markedForest : Forest :=
  .ofGrove "re\"gion" (.plant "a\\" (.plant "\"b\n" .bare .bare) .bare)

/-- Quotes, backslashes and newlines break no line, and fill colors show in the text. -/
theorem dotText_expand_marks :
    (textLines ((markedForest.paint fun _ => .plain "];\n").dotText "\"")).length = 13 ∧
      (markedForest.paint fun _ => .plain "];\n").dotText "\"" ≠
        (markedForest.paint fun _ => .filled "];\n" .tomato).dotText "\"" := by
  have hexpand :
      (ofHistory "re\"gion" [.addEdge "a\\" "\"b\n"]).expand = .ok markedForest := by cbv
  obtain ⟨hinj, hlength, -⟩ := dotText_expand _ _ markedForest markedForest hexpand hexpand
    (fun _ => .plain "];\n") (fun _ => .filled "];\n" .tomato) "\"" "\""
  refine ⟨hlength, fun htext => ?_⟩
  have hpaint := (hinj htext).2
  revert hpaint
  decide

end CallGraph

end CallForest
