import CallForest.Proofs.Graph.Cycle

/-! # Walks and their order

A walk of a call graph is a non-empty list of functions, each of which calls the next. Walks from a
list of functions are ordered as a search in depth goes through them: a walk comes before its own
extensions, and where two walks part, the one that takes the earlier call comes first.

* `CallGraph.IsWalk`: walks that start in a given list of functions.
* `CallGraph.Precedes`: the order of a search in depth. -/

namespace CallForest

namespace CallGraph

/-- A **walk** that starts at one of the functions `starts`: each of its functions calls the next.
-/
def IsWalk (graph : CallGraph) (starts walk : List String) : Prop :=
  (∃ start ∈ starts, walk.head? = some start) ∧ walk.IsChain graph.Calls

/-- The **order of a search in depth**, among walks that take their first function out of `starts`
and every other one out of what the function before it calls. -/
inductive Precedes (graph : CallGraph) : List String → List String → List String → Prop where
  /-- A walk comes before its extensions. -/
  | extension (starts : List String) (id : String) (walk : List String) :
      Precedes graph starts [] (id :: walk)
  /-- Where walks part, the earlier choice comes first. -/
  | parting {starts : List String} {first second : String} (walk other : List String)
      (hearlier : starts.idxOf first < starts.idxOf second) :
      Precedes graph starts (first :: walk) (second :: other)
  /-- Walks that start together are ordered by what comes next. -/
  | together (starts : List String) {id : String} {walk other : List String}
      (hrest : Precedes graph (graph.callees id) walk other) :
      Precedes graph starts (id :: walk) (id :: other)

variable {graph : CallGraph} {starts walk other : List String} {id : String}

/-- The empty list is no walk. -/
@[simp] theorem not_isWalk_nil : ¬ graph.IsWalk starts [] := by
  simp [IsWalk]

/-- A walk starts in its list, and goes on, if it does, with a function that its first one calls. -/
theorem isWalk_cons_iff :
    graph.IsWalk starts (id :: walk) ↔
      id ∈ starts ∧ (walk = [] ∨ graph.IsWalk (graph.callees id) walk) := by
  cases walk with
  | nil => simp [IsWalk]
  | cons next walk => simp [IsWalk, Calls]

/-- A walk starts with a function of its list. -/
theorem IsWalk.exists_cons (hwalk : graph.IsWalk starts walk) :
    ∃ id rest, walk = id :: rest ∧ id ∈ starts := by
  cases walk with
  | nil => exact absurd hwalk not_isWalk_nil
  | cons id rest => exact ⟨id, rest, rfl, (isWalk_cons_iff.1 hwalk).1⟩

/-- A walk goes on from the first function of its list, or is a walk from the functions behind
it. -/
theorem isWalk_cons_starts_iff :
    graph.IsWalk (id :: starts) walk ↔
      (∃ rest, walk = id :: rest ∧ (rest = [] ∨ graph.IsWalk (graph.callees id) rest)) ∨
        graph.IsWalk starts walk := by
  constructor
  · intro hwalk
    obtain ⟨first, rest, rfl, -⟩ := hwalk.exists_cons
    obtain ⟨hfirst, hrest⟩ := isWalk_cons_iff.1 hwalk
    rcases List.mem_cons.1 hfirst with rfl | hfirst
    · exact .inl ⟨rest, rfl, hrest⟩
    · exact .inr (isWalk_cons_iff.2 ⟨hfirst, hrest⟩)
  · rintro (⟨rest, rfl, hrest⟩ | hwalk)
    · exact isWalk_cons_iff.2 ⟨List.mem_cons_self, hrest⟩
    · obtain ⟨first, rest, rfl, hfirst⟩ := hwalk.exists_cons
      exact isWalk_cons_iff.2 ⟨.tail id hfirst, (isWalk_cons_iff.1 hwalk).2⟩

/-- A walk does not start with a function that is not in its list. -/
theorem IsWalk.head?_ne (hwalk : graph.IsWalk starts walk) (hid : id ∉ starts) :
    walk.head? ≠ some id := by
  obtain ⟨first, rest, rfl, hfirst⟩ := hwalk.exists_cons
  intro hhead
  exact hid (Option.some.inj hhead ▸ hfirst)

/-- Of two walks at most one comes before the other. -/
theorem Precedes.asymm (hbefore : graph.Precedes starts walk other) :
    ¬ graph.Precedes starts other walk := by
  intro hafter
  induction hbefore with
  | extension => cases hafter
  | parting walk other hearlier =>
      cases hafter with
      | parting _ _ hlater => omega
      | together => exact lt_irrefl _ hearlier
  | together starts hrest ih =>
      cases hafter with
      | parting _ _ hearlier => exact lt_irrefl _ hearlier
      | together _ hback => exact ih hback

/-- No walk comes before itself. -/
theorem Precedes.ne (hbefore : graph.Precedes starts walk other) : walk ≠ other := by
  rintro rfl
  exact hbefore.asymm hbefore

/-- Walks that start with the first function of a list come before those that start behind it. -/
theorem IsWalk.precedes_of_not_mem {first : String} {rest : List String}
    (hother : graph.IsWalk starts other) (hfirst : first ∉ starts) :
    graph.Precedes (first :: starts) (first :: rest) other := by
  obtain ⟨id, walk, rfl, hid⟩ := hother.exists_cons
  have hne : first ≠ id := fun hsame => hfirst (hsame ▸ hid)
  refine .parting rest walk ?_
  rw [List.idxOf_cons_self, List.idxOf_cons_ne starts hne]
  exact Nat.succ_pos _

/-- Another function in front of the list changes nothing between walks that start behind it. -/
theorem Precedes.cons_starts {first : String} (hbefore : graph.Precedes starts walk other)
    (hwalk : walk.head? ≠ some first) (hother : other.head? ≠ some first) :
    graph.Precedes (first :: starts) walk other := by
  cases hbefore with
  | extension => exact .extension _ _ _
  | @parting _ id next walk other hearlier =>
      have hid : first ≠ id := fun hsame => hwalk (by rw [hsame, List.head?_cons])
      have hnext : first ≠ next := fun hsame => hother (by rw [hsame, List.head?_cons])
      refine .parting walk other ?_
      rw [List.idxOf_cons_ne starts hid, List.idxOf_cons_ne starts hnext]
      exact Nat.succ_lt_succ hearlier
  | together _ hrest => exact .together _ hrest

end CallGraph

end CallForest
