import CallForest.Proofs.Json.Passing

/-! # Reading lists and objects

What stands between brackets or braces, as the search for the next element or member meets it. A
list is read if each of its elements is read to its last byte, and the elements come out in their
order. For objects, the search, the key and the colon behind it are common to all readers.

* `Json.Takes`: a reader takes the texts of a tree.
* `Json.ElementsAt`, `Json.exists_elementsAt`: elements as they are met.
* `Json.outcome_elements`: the elements of a list.
* `Json.MembersAt`, `Json.exists_membersAt`: members as they are met.
* `Json.outcome_key`, `Json.outcome_keyed`: a key, and what stands behind it. -/

namespace CallForest

namespace Json

variable {α : Type} {read : List α} {element : Reader α} {view : Tree → Option α} {first : Bool}
  {bytes text blanks behind colon rest : Bytes} {trees : List Tree} {members : List (String × Tree)}

/-- A reader **takes** a tree if it reads every text of the tree to its last byte, and gives what a
view of the tree gives, or refuses where the view gives nothing. -/
def Takes (reader : Reader α) (view : Tree → Option α) (tree : Tree) : Prop :=
  ∀ ⦃blanks text rest : Bytes⦄, IsBlanks blanks → tree.IsText text → Delimited rest →
    outcome (reader (blanks ++ (text ++ rest))) = (view tree).map (·, rest)

/-- A comma is no blank. -/
theorem skipBlank_comma (rest : Bytes) : skipBlank (0x2c :: rest) = 0x2c :: rest :=
  skipBlank_cons (by decide)

/-! ### Elements -/

/-- **Elements as they are met** up to the closing bracket, behind which `rest` is left. -/
inductive ElementsAt (rest : Bytes) : Bool → List Tree → Bytes → Prop where
  /-- There is no other element. -/
  | close {first : Bool} {bytes : Bytes}
      (hnext : nextElement first bytes = .ok (false, 0x5d :: rest)) :
      ElementsAt rest first [] bytes
  /-- There is another element, and others behind it. -/
  | next {first : Bool} {tree : Tree} {trees : List Tree} {bytes text tail : Bytes}
      (hnext : nextElement first bytes = .ok (true, text ++ tail)) (htext : tree.IsText text)
      (htail : Delimited tail) (hrest : ElementsAt rest false trees tail) :
      ElementsAt rest first (tree :: trees) bytes

/-- At the closing bracket, there is no other element. -/
theorem elementsAt_close (hbehind : IsBlanks behind) (rest : Bytes) :
    ElementsAt rest first [] (behind ++ 0x5d :: rest) := by
  refine .close ?_
  rw [nextElement, skipBlank_append hbehind, skipBlank_cons (by decide)]
  rfl

/-- The first element begins behind blanks. -/
theorem nextElement_first (htext : IsElements Tree.IsText trees text) (rest : Bytes) :
    nextElement true (text ++ rest) = .ok (true, skipBlank (text ++ rest)) := by
  obtain ⟨first, more, -, hne, hskip⟩ := exists_cons_of_isElements htext
  simp [nextElement, hskip, hne]

/-- Behind a comma, another element begins. -/
theorem nextElement_comma (hbehind : IsBlanks behind) (htext : IsElements Tree.IsText trees text)
    (rest : Bytes) :
    nextElement false (behind ++ 0x2c :: (text ++ rest)) =
      .ok (true, skipBlank (text ++ rest)) := by
  obtain ⟨first, more, -, hne, hskip⟩ := exists_cons_of_isElements htext
  simp [nextElement, skipBlank_append hbehind, skipBlank_comma, hskip, hne]

/-- A text of elements is met from its first element on. -/
theorem elementsAt_of_nextElement (htext : IsElements Tree.IsText trees text)
    (hnext : nextElement first bytes = .ok (true, skipBlank (text ++ 0x5d :: rest))) :
    ElementsAt rest first trees bytes := by
  induction htext generalizing first bytes with
  | last hbefore htext hbehind =>
      rw [List.append_assoc, List.append_assoc, skipBlank_text hbefore htext] at hnext
      exact .next hnext htext (delimited_append hbehind (delimited_cons (by decide) _))
        (elementsAt_close hbehind rest)
  | next hbefore htext hbehind hrest ih =>
      simp only [List.append_assoc, List.cons_append] at hnext
      rw [skipBlank_text hbefore htext] at hnext
      exact .next hnext htext (delimited_append hbehind (delimited_cons (by decide) _))
        (ih (nextElement_comma hbehind hrest _))

/-- **A text of elements is met** behind the opening bracket. -/
theorem elementsAt_first (htext : IsElements Tree.IsText trees text) (rest : Bytes) :
    ElementsAt rest true trees (text ++ 0x5d :: rest) :=
  elementsAt_of_nextElement htext (nextElement_first htext _)

/-- **The elements of a list are met** behind its opening bracket, whether there are any or not. -/
theorem exists_elementsAt (hblanks : IsBlanks blanks) (htext : Tree.IsText (.list trees) text)
    (rest : Bytes) :
    ∃ inside, skipBlank (blanks ++ (text ++ rest)) = 0x5b :: inside ∧
      ElementsAt rest true trees inside := by
  rw [skipBlank_text hblanks htext]
  cases htext with
  | @emptyList inside hinside =>
      refine ⟨inside ++ 0x5d :: rest, ?_, elementsAt_close hinside rest⟩
      rw [List.cons_append, List.append_assoc, List.singleton_append]
  | @list _ inside helements =>
      refine ⟨inside ++ 0x5d :: rest, ?_, elementsAt_first helements rest⟩
      rw [List.cons_append, List.append_assoc, List.singleton_append]

/-- One element is read, and then the others. -/
theorem elementsFrom_next (hnext : nextElement read.isEmpty bytes = .ok (true, rest)) :
    (elementsFrom element read bytes).toOption =
      (outcome (element rest)).bind
        fun taken => (elementsFrom element (taken.1 :: read) taken.2).toOption := by
  rw [elementsFrom]
  split
  · simp_all
  · simp_all
  · rename_i left hfound
    obtain rfl : left = rest := (Prod.mk.inj (Except.ok.inj (hfound.symm.trans hnext))).2
    dsimp only
    cases element left <;> rfl

/-- The elements are read behind those already read, by induction over the elements that are met. -/
theorem elementsFrom_of_elementsAt (hat : ElementsAt rest read.isEmpty trees bytes)
    (htakes : ∀ tree ∈ trees, Takes element view tree) :
    (elementsFrom element read bytes).toOption =
      (trees.mapM view).map fun values => (read.reverse ++ values, rest) := by
  induction trees generalizing read bytes with
  | nil =>
      cases hat with
      | close hnext =>
          rw [elementsFrom]
          split <;> simp_all [Except.toOption]
  | cons tree trees ih =>
      obtain ⟨htake, htakes⟩ := List.forall_mem_cons.1 htakes
      cases hat with
      | next hnext htext htail hrest =>
          rw [elementsFrom_next hnext, List.mapM_cons, ← List.nil_append (_ ++ _),
            htake isBlanks_nil htext htail]
          cases view tree with
          | none => rfl
          | some value =>
              -- Something has been read now, so that a comma is looked for.
              have hrest : ElementsAt rest (value :: read).isEmpty trees _ := hrest
              rw [Option.map_some, Option.bind_some, ih hrest htakes, List.reverse_cons]
              cases trees.mapM view with
              | none => rfl
              | some values => simp

/-- **The elements of a list are read**, in their order. -/
theorem outcome_elements (hat : ElementsAt rest true trees bytes)
    (htakes : ∀ tree ∈ trees, Takes element view tree) :
    outcome (elements element bytes) = (trees.mapM view).map (·, rest) := by
  have hread : (elementsFrom element [] bytes).toOption = (trees.mapM view).map (·, rest) :=
    elementsFrom_of_elementsAt hat htakes
  rw [← hread]
  unfold elements
  split
  · rename_i fault hfault
    exact (congrArg Except.toOption hfault).symm
  · rename_i values left hvalues
    exact (congrArg Except.toOption hvalues).symm

/-! ### Members -/

/-- **Members as they are met** up to the closing brace, behind which `rest` is left. -/
inductive MembersAt (rest : Bytes) : Bool → List (String × Tree) → Bytes → Prop where
  /-- There is no other member. -/
  | close {first : Bool} {bytes : Bytes}
      (hnext : nextMember first bytes = .ok (false, 0x7d :: rest)) :
      MembersAt rest first [] bytes
  /-- There is another member, and others behind it. -/
  | next {first : Bool} {name : String} {tree : Tree} {members : List (String × Tree)}
      {bytes key colon blanks text tail : Bytes}
      (hnext : nextMember first bytes =
        .ok (true, key ++ (colon ++ 0x3a :: (blanks ++ (text ++ tail)))))
      (hkey : IsString name key) (hcolon : IsBlanks colon) (hblanks : IsBlanks blanks)
      (htext : tree.IsText text) (htail : Delimited tail)
      (hrest : MembersAt rest false members tail) :
      MembersAt rest first ((name, tree) :: members) bytes

/-- At the closing brace, there is no other member. -/
theorem membersAt_close (hbehind : IsBlanks behind) (rest : Bytes) :
    MembersAt rest first [] (behind ++ 0x7d :: rest) := by
  refine .close ?_
  rw [nextMember, skipBlank_append hbehind, skipBlank_cons (by decide)]
  rfl

/-- The first member begins behind blanks. -/
theorem nextMember_first (htext : IsMembers Tree.IsText members text) (rest : Bytes) :
    nextMember true (text ++ rest) = .ok (true, skipBlank (text ++ rest)) := by
  obtain ⟨more, -, hskip⟩ := exists_cons_of_isMembers htext
  simp [nextMember, hskip]

/-- Behind a comma, another member begins. -/
theorem nextMember_comma (hbehind : IsBlanks behind) (htext : IsMembers Tree.IsText members text)
    (rest : Bytes) :
    nextMember false (behind ++ 0x2c :: (text ++ rest)) = .ok (true, skipBlank (text ++ rest)) := by
  obtain ⟨more, -, hskip⟩ := exists_cons_of_isMembers htext
  simp [nextMember, skipBlank_append hbehind, skipBlank_comma, hskip]

/-- A key is not skipped behind blanks. -/
theorem skipBlank_key {name : String} {before key : Bytes} (hbefore : IsBlanks before)
    (hkey : IsString name key) (rest : Bytes) :
    skipBlank (before ++ (key ++ rest)) = key ++ rest := by
  cases hkey with
  | intro hinner =>
      rw [skipBlank_append hbefore]
      exact skipBlank_cons (by decide)

/-- A text of members is met from its first member on. -/
theorem membersAt_of_nextMember (htext : IsMembers Tree.IsText members text)
    (hnext : nextMember first bytes = .ok (true, skipBlank (text ++ 0x7d :: rest))) :
    MembersAt rest first members bytes := by
  induction htext generalizing first bytes with
  | last hbefore hkey hcolon hblank htext hbehind =>
      simp only [List.append_assoc, List.cons_append] at hnext
      rw [skipBlank_key hbefore hkey] at hnext
      exact .next hnext hkey hcolon hblank htext
        (delimited_append hbehind (delimited_cons (by decide) _)) (membersAt_close hbehind rest)
  | next hbefore hkey hcolon hblank htext hbehind hrest ih =>
      simp only [List.append_assoc, List.cons_append] at hnext
      rw [skipBlank_key hbefore hkey] at hnext
      exact .next hnext hkey hcolon hblank htext
        (delimited_append hbehind (delimited_cons (by decide) _))
        (ih (nextMember_comma hbehind hrest _))

/-- **A text of members is met** behind the opening brace. -/
theorem membersAt_first (htext : IsMembers Tree.IsText members text) (rest : Bytes) :
    MembersAt rest true members (text ++ 0x7d :: rest) :=
  membersAt_of_nextMember htext (nextMember_first htext _)

/-- **The members of an object are met** behind its opening brace, whether there are any or not. -/
theorem exists_membersAt (hblanks : IsBlanks blanks) (htext : Tree.IsText (.object members) text)
    (rest : Bytes) :
    ∃ inside, skipBlank (blanks ++ (text ++ rest)) = 0x7b :: inside ∧
      MembersAt rest true members inside := by
  rw [skipBlank_text hblanks htext]
  cases htext with
  | @emptyObject inside hinside =>
      refine ⟨inside ++ 0x7d :: rest, ?_, membersAt_close hinside rest⟩
      rw [List.cons_append, List.append_assoc, List.singleton_append]
  | @object _ inside hmembers =>
      refine ⟨inside ++ 0x7d :: rest, ?_, membersAt_first hmembers rest⟩
      rw [List.cons_append, List.append_assoc, List.singleton_append]

/-- **A key is read**, from its quote on. -/
theorem outcome_key {name : String} (htext : IsString name text) (rest : Bytes) :
    outcome (key (text ++ rest)) = some (name, rest) := by
  cases htext with
  | intro hinner =>
      rw [List.cons_append, List.append_assoc, List.singleton_append]
      exact (outcome_behind _).trans (outcome_text hinner rest)

/-- **What stands behind a colon is read.** -/
theorem outcome_keyed (reader : Reader α) (hcolon : IsBlanks colon) (rest : Bytes) :
    outcome (keyed reader (colon ++ 0x3a :: rest)) = outcome (reader rest) := by
  obtain ⟨hshorter, hread⟩ := outcome_eq_some_iff.1 (outcome_colon hcolon rest)
  rw [keyed, hread]
  simp only [bind, Except.bind]
  cases reader rest <;> rfl

end Json

end CallForest
