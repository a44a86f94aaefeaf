import CallForest.Proofs.Json.Scalar

/-! # Passing over values

A text of a tree is passed over to its last byte, however deep it is. What is open when its first
byte is reached is open again behind its last one: this is the invariant, by induction over trees.

* `Json.outcome_colon`, `Json.outcome_passKey`: passing over a key and a colon.
* `Json.exists_cons_of_isElements`, `Json.exists_cons_of_isMembers`: how lists and objects begin.
* `Json.passes`: passing over a value inside enclosures.
* `Json.outcome_passValue`: passing over a value. -/

namespace CallForest

namespace Json

variable {before colon key text blanks bytes behind rest : Bytes} {tree : Tree} {name : String}
  {elements : List Tree} {members : List (String × Tree)} {enclosures : List Enclosure}
  {enclosure : Enclosure} {first : UInt8}

/-! ### Keys -/

/-- A colon is read behind blanks. -/
theorem outcome_colon (hblanks : IsBlanks blanks) (rest : Bytes) :
    outcome (Json.colon (blanks ++ 0x3a :: rest)) = some ((), rest) := by
  have hbegins : skipBlank (blanks ++ 0x3a :: rest) = 0x3a :: rest := by
    rw [skipBlank_append hblanks, skipBlank_cons (by decide)]
  unfold Json.colon
  dsimp only
  split
  · rename_i hnone
    rw [hbegins] at hnone
    cases hnone
  · rename_i first more hsome
    obtain ⟨rfl, rfl⟩ := List.cons.inj (hbegins.symm.trans hsome)
    rfl

/-- **A key is passed over** with the colon behind it. -/
theorem outcome_passKey (hbefore : IsBlanks before) (hkey : IsString name key)
    (hcolon : IsBlanks colon) (rest : Bytes) :
    outcome (passKey (before ++ (key ++ (colon ++ 0x3a :: rest)))) = some ((), rest) := by
  cases hkey with
  | @intro inner hinner =>
      have hbegins : skipBlank (before ++ (0x22 :: (inner ++ [0x22]) ++ (colon ++ 0x3a :: rest))) =
          0x22 :: (inner ++ 0x22 :: (colon ++ 0x3a :: rest)) := by
        rw [skipBlank_append hbefore, List.cons_append, List.append_assoc, List.singleton_append,
          skipBlank_cons (by decide)]
      obtain ⟨hshorter, hread⟩ := outcome_eq_some_iff.1
        (outcome_passText hinner (colon ++ 0x3a :: rest))
      obtain ⟨hshorter', hread'⟩ := outcome_eq_some_iff.1 (outcome_colon hcolon rest)
      unfold passKey
      dsimp only
      split
      · rename_i hnone
        rw [hbegins] at hnone
        cases hnone
      · rename_i quote more hsome
        obtain ⟨rfl, rfl⟩ := List.cons.inj (hbegins.symm.trans hsome)
        simp [hread, hread', bind, Except.bind, pure, Except.pure]
        rfl

/-! ### How lists and objects begin -/

/-- The elements of a list begin, behind blanks, with the first byte of an element. -/
theorem exists_cons_of_isElements (htext : IsElements Tree.IsText elements text) :
    ∃ first more, IsElements Tree.IsText elements (first :: more) ∧ first ≠ 0x5d ∧
      ∀ rest, skipBlank (text ++ rest) = first :: (more ++ rest) := by
  cases htext with
  | last hbefore htext hbehind =>
      obtain ⟨first, more, rfl, hfirst, hclose, -⟩ := Tree.exists_cons_of_isText htext
      refine ⟨first, _, .last isBlanks_nil htext hbehind, hclose, fun rest => ?_⟩
      rw [List.append_assoc, skipBlank_append hbefore]
      exact skipBlank_cons hfirst
  | next hbefore htext hbehind hrest =>
      obtain ⟨first, more, rfl, hfirst, hclose, -⟩ := Tree.exists_cons_of_isText htext
      refine ⟨first, _, .next isBlanks_nil htext hbehind hrest, hclose,
        fun rest => ?_⟩
      rw [List.append_assoc, skipBlank_append hbefore]
      exact skipBlank_cons hfirst

/-- The members of an object begin, behind blanks, with a quote. -/
theorem exists_cons_of_isMembers (htext : IsMembers Tree.IsText members text) :
    ∃ more, IsMembers Tree.IsText members (0x22 :: more) ∧
      ∀ rest, skipBlank (text ++ rest) = 0x22 :: (more ++ rest) := by
  cases htext with
  | last hbefore hkey hcolon hblank htext hbehind =>
      cases hkey with
      | intro hinner =>
          refine ⟨_, .last isBlanks_nil (.intro hinner) hcolon hblank htext hbehind,
            fun rest => ?_⟩
          rw [List.append_assoc, skipBlank_append hbefore]
          exact skipBlank_cons (by decide)
  | next hbefore hkey hcolon hblank htext hbehind hrest =>
      cases hkey with
      | intro hinner =>
          refine ⟨_, .next isBlanks_nil (.intro hinner) hcolon hblank htext hbehind
            hrest, fun rest => ?_⟩
          rw [List.append_assoc, skipBlank_append hbefore]
          exact skipBlank_cons (by decide)

/-! ### Steps -/

/-- An opening bracket is passed over. -/
theorem pass_value_list (hbegins : skipBlank bytes = 0x5b :: rest) :
    pass .value enclosures bytes = pass (.opened .list) enclosures rest := by
  rw [pass]
  split <;> simp_all

/-- An opening brace is passed over. -/
theorem pass_value_object (hbegins : skipBlank bytes = 0x7b :: rest) :
    pass .value enclosures bytes = pass (.opened .object) enclosures rest := by
  rw [pass]
  split <;> simp_all

/-- A scalar is passed over. -/
theorem pass_value_scalar (hbegins : skipBlank bytes = first :: rest) (hlist : first ≠ 0x5b)
    (hobject : first ≠ 0x7b)
    (hscalar : (passScalar? (first :: rest)).map outcome = some (some ((), behind))) :
    pass .value enclosures bytes = pass .behind enclosures behind := by
  obtain ⟨result, hresult, hread⟩ := Option.map_eq_some_iff.1 hscalar
  obtain ⟨hshorter, rfl⟩ := outcome_eq_some_iff.1 hread
  rw [pass]
  split
  · simp_all
  · rename_i hsome
    obtain ⟨rfl, rfl⟩ := List.cons.inj (hbegins.symm.trans hsome)
    rw [if_neg hlist, if_neg hobject, hresult]

/-- An enclosure without contents is passed over. -/
theorem pass_opened_close (hbegins : skipBlank bytes = enclosure.close :: rest) :
    pass (.opened enclosure) enclosures bytes = pass .behind enclosures rest := by
  rw [pass]
  split <;> simp_all

/-- The contents of an enclosure begin. -/
theorem pass_opened_item (hbegins : skipBlank bytes = first :: rest)
    (hne : first ≠ enclosure.close) :
    pass (.opened enclosure) enclosures bytes =
      pass (.item enclosure) enclosures (first :: rest) := by
  rw [pass]
  split <;> simp_all

/-- A member is passed over as far as its value. -/
theorem pass_item_object (hkey : outcome (passKey bytes) = some ((), rest)) :
    pass (.item .object) enclosures bytes = pass .value (.object :: enclosures) rest := by
  obtain ⟨hshorter, hread⟩ := outcome_eq_some_iff.1 hkey
  conv_lhs => rw [pass, hread]

/-- A comma is passed over. -/
theorem pass_behind_comma (hbegins : skipBlank bytes = 0x2c :: rest) :
    pass .behind (enclosure :: enclosures) bytes = pass (.item enclosure) enclosures rest := by
  rw [pass]
  split <;> simp_all

/-- The end of an enclosure is passed over. -/
theorem pass_behind_close (hbegins : skipBlank bytes = enclosure.close :: rest) :
    pass .behind (enclosure :: enclosures) bytes = pass .behind enclosures rest := by
  -- Commas are looked for first, but no enclosure is closed by one.
  have hcomma : enclosure.close ≠ 0x2c := by cases enclosure <;> decide
  rw [pass]
  split <;> simp_all

/-! ### Values -/

/-- What has to be shown of a tree: behind it, what was open in front of it is open again. -/
def Passes (tree : Tree) : Prop :=
  ∀ (enclosures : List Enclosure) ⦃blanks text rest : Bytes⦄, IsBlanks blanks → tree.IsText text →
    Delimited rest →
    pass .value enclosures (blanks ++ (text ++ rest)) = pass .behind enclosures rest

/-- The elements of a list are passed over to the closing bracket. -/
theorem pass_elements (htext : IsElements Tree.IsText elements text)
    (hpasses : ∀ tree ∈ elements, Passes tree) (rest : Bytes) :
    pass (.item .list) enclosures (text ++ 0x5d :: rest) = pass .behind enclosures rest := by
  induction htext with
  | last hbefore htext hbehind =>
      have hpass := hpasses _ List.mem_cons_self
      rw [pass, List.append_assoc, List.append_assoc,
        hpass _ hbefore htext (delimited_append hbehind (delimited_cons (by decide) _)),
        pass_behind_close]
      rw [skipBlank_append hbehind]
      rfl
  | next hbefore htext hbehind hrest ih =>
      have hpass := hpasses _ List.mem_cons_self
      simp only [List.append_assoc, List.cons_append]
      rw [pass, hpass _ hbefore htext (delimited_append hbehind (delimited_cons (by decide) _)),
        pass_behind_comma, ih fun tree hmem => hpasses tree (List.mem_cons_of_mem _ hmem)]
      rw [skipBlank_append hbehind]
      rfl

/-- The members of an object are passed over to the closing brace. -/
theorem pass_members (htext : IsMembers Tree.IsText members text)
    (hpasses : ∀ member ∈ members, Passes member.2) (rest : Bytes) :
    pass (.item .object) enclosures (text ++ 0x7d :: rest) = pass .behind enclosures rest := by
  induction htext with
  | last hbefore hkey hcolon hblank htext hbehind =>
      have hpass := hpasses _ List.mem_cons_self
      simp only [List.append_assoc, List.cons_append]
      rw [pass_item_object (outcome_passKey hbefore hkey hcolon _),
        hpass _ hblank htext (delimited_append hbehind (delimited_cons (by decide) _)),
        pass_behind_close]
      rw [skipBlank_append hbehind]
      rfl
  | next hbefore hkey hcolon hblank htext hbehind hrest ih =>
      have hpass := hpasses _ List.mem_cons_self
      simp only [List.append_assoc, List.cons_append]
      rw [pass_item_object (outcome_passKey hbefore hkey hcolon _),
        hpass _ hblank htext (delimited_append hbehind (delimited_cons (by decide) _)),
        pass_behind_comma, ih fun member hmem => hpasses member (List.mem_cons_of_mem _ hmem)]
      rw [skipBlank_append hbehind]
      rfl

/-- A scalar is passed over. -/
theorem passes_of_scalar? {scalar : Scalar} (hsound : tree.Sound)
    (hscalar : tree.scalar? = some scalar) : Passes tree := by
  intro enclosures blanks text rest hblanks htext hrest
  have hbegins := skipBlank_text hblanks htext rest
  have hread := outcome_passScalar? htext hsound hrest
  rw [hscalar] at hread
  obtain ⟨first, more, rfl, -, -, hlist, hobject⟩ := Tree.exists_cons_of_isText htext
  -- Only lists and objects begin with a bracket or a brace, and they are no scalars.
  refine pass_value_scalar hbegins ?_ ?_ hread
  · intro hfirst
    obtain ⟨elements, rfl⟩ := hlist.1 hfirst
    cases hscalar
  · intro hfirst
    obtain ⟨members, rfl⟩ := hobject.1 hfirst
    cases hscalar

/-- **A value is passed over** to its last byte. -/
theorem passes (hsound : tree.Sound) : Passes tree := by
  induction tree using Tree.induction with
  | null => exact passes_of_scalar? hsound rfl
  | boolean value => exact passes_of_scalar? hsound rfl
  | number negative numeral =>
      obtain ⟨number, -, hscalar⟩ := hsound.exists_number
      exact passes_of_scalar? hsound hscalar
  | string value => exact passes_of_scalar? hsound rfl
  | list elements ih =>
      intro enclosures blanks text rest hblanks htext hrest
      have hbegins := skipBlank_text hblanks htext rest
      -- Whether there are elements shows behind the bracket, when the closing one is looked for.
      cases htext with
      | emptyList hinside =>
          rw [pass_value_list hbegins, List.append_eq, List.append_assoc, List.singleton_append,
            pass_opened_close]
          rw [skipBlank_append hinside]
          rfl
      | list helements =>
          obtain ⟨first, more, hmore, hne, hskip⟩ := exists_cons_of_isElements helements
          have hclose : first ≠ Enclosure.list.close := hne
          rw [pass_value_list hbegins, List.append_eq, List.append_assoc, List.singleton_append,
            pass_opened_item (hskip _) hclose, ← List.cons_append]
          exact pass_elements hmore
            (fun tree hmem => ih tree hmem (hsound.of_mem_elements hmem)) rest
  | object members ih =>
      intro enclosures blanks text rest hblanks htext hrest
      have hbegins := skipBlank_text hblanks htext rest
      cases htext with
      | emptyObject hinside =>
          rw [pass_value_object hbegins, List.append_eq, List.append_assoc, List.singleton_append,
            pass_opened_close]
          rw [skipBlank_append hinside]
          rfl
      | object hmembers =>
          obtain ⟨more, hmore, hskip⟩ := exists_cons_of_isMembers hmembers
          rw [pass_value_object hbegins, List.append_eq, List.append_assoc, List.singleton_append,
            pass_opened_item (hskip _) (by decide), ← List.cons_append]
          exact pass_members hmore
            (fun member hmem => ih member hmem (hsound.of_mem_members hmem)) rest

/-- **A value is passed over**, and what follows is left. -/
theorem outcome_passValue (hblanks : IsBlanks blanks) (htext : tree.IsText text)
    (hsound : tree.Sound) (hrest : Delimited rest) :
    outcome (passValue (blanks ++ (text ++ rest))) = some ((), rest) := by
  -- When nothing is open any more, the reader stops.
  have hread : pass .value [] (blanks ++ (text ++ rest)) = .ok rest := by
    rw [passes hsound [] hblanks htext hrest, pass]
  unfold passValue
  split
  · rename_i fault hfault
    rw [hread] at hfault
    cases hfault
  · rename_i left hleft
    obtain rfl := Except.ok.inj (hread.symm.trans hleft)
    rfl

end Json

end CallForest
