import CallForest.Proofs.Json.Text

/-! # Compact texts

A tree is written without blanks and without escapes, one piece behind the other. Where no character
needs an escape this is a text of the tree, so that every tree of this kind has one.

* `Json.Tree.compact`: a tree without blanks and escapes.
* `Json.Tree.isText_compact`: it is a text of the tree. -/

namespace CallForest

namespace Json

/-- A string in quotes, without escapes. -/
def quoted (value : String) : Bytes := 0x22 :: (Utf8.encode value.toList ++ [0x22])

/-- An exponent behind a small letter, with a sign if it is negative. -/
def Exponent.compact (exponent : Exponent) : Bytes :=
  0x65 :: ((if exponent.negative then [0x2d] else []) ++ exponent.digits)

/-- A numeral without its sign. -/
def Numeral.compact (numeral : Numeral) : Bytes :=
  numeral.whole ++ ((numeral.fraction.elim [] (0x2e :: ·)) ++ numeral.exponent.elim [] (·.compact))

namespace Tree

mutual

/-- A tree **without blanks and escapes**. -/
def compact : Tree → Bytes
  | .null => [0x6e, 0x75, 0x6c, 0x6c]
  | .boolean true => [0x74, 0x72, 0x75, 0x65]
  | .boolean false => [0x66, 0x61, 0x6c, 0x73, 0x65]
  | .number negative numeral => if negative then 0x2d :: numeral.compact else numeral.compact
  | .string value => quoted value
  | .list elements => 0x5b :: (compactElements elements ++ [0x5d])
  | .object members => 0x7b :: (compactMembers members ++ [0x7d])

/-- Elements with commas between them. -/
def compactElements : List Tree → Bytes
  | [] => []
  | [tree] => tree.compact
  | tree :: elements => tree.compact ++ 0x2c :: compactElements elements

/-- Members with commas between them. -/
def compactMembers : List (String × Tree) → Bytes
  | [] => []
  | [(name, tree)] => quoted name ++ 0x3a :: tree.compact
  | (name, tree) :: members =>
    quoted name ++ 0x3a :: (tree.compact ++ 0x2c :: compactMembers members)

end

/-- A tree in which **nothing needs an escape**, neither in a string nor in a key, and numerals are
made of digits. -/
def IsPlain : Tree → Prop
  | .number _ numeral => numeral.IsText numeral.compact
  | .string value => value.toList.all Json.isPlain = true
  | .object members => ∀ member ∈ members, member.1.toList.all Json.isPlain = true
  | _ => True

variable {tree : Tree} {elements : List Tree} {name : String} {members : List (String × Tree)}

/-- Elements are written one after the other. -/
theorem isElements_compact
    (hall : ∀ element ∈ tree :: elements, element.IsText element.compact) :
    IsElements IsText (tree :: elements) (compactElements (tree :: elements)) := by
  induction elements generalizing tree with
  | nil =>
      obtain ⟨hfirst, -⟩ := List.forall_mem_cons.1 hall
      simpa [compactElements] using IsElements.last isBlanks_nil hfirst isBlanks_nil
  | cons next elements ih =>
      obtain ⟨hfirst, hrest⟩ := List.forall_mem_cons.1 hall
      simpa [compactElements] using
        IsElements.next isBlanks_nil hfirst isBlanks_nil (ih hrest)

/-- Members are written one after the other. -/
theorem isMembers_compact
    (hplain : ∀ member ∈ (name, tree) :: members, member.1.toList.all Json.isPlain = true)
    (hall : ∀ member ∈ (name, tree) :: members, member.2.IsText member.2.compact) :
    IsMembers IsText ((name, tree) :: members) (compactMembers ((name, tree) :: members)) := by
  induction members generalizing name tree with
  | nil =>
      obtain ⟨hname, -⟩ := List.forall_mem_cons.1 hplain
      obtain ⟨hfirst, -⟩ := List.forall_mem_cons.1 hall
      simpa [compactMembers, quoted] using isMembers_last name hname hfirst
  | cons next members ih =>
      obtain ⟨hname, hplain⟩ := List.forall_mem_cons.1 hplain
      obtain ⟨hfirst, hrest⟩ := List.forall_mem_cons.1 hall
      simpa [compactMembers, quoted] using isMembers_next name hname hfirst (ih hplain hrest)

/-- **Every tree in which nothing needs an escape has a text**: the compact one. -/
theorem isText_compact (hplain : tree.All IsPlain) : tree.IsText tree.compact := by
  induction tree using Tree.induction with
  | null => exact .null
  | boolean value =>
      cases value with
      | false => exact .false
      | true => exact .true
  | number negative numeral =>
      have htext : numeral.IsText numeral.compact := all_number_iff.1 hplain
      cases negative with
      | false => exact .positive htext
      | true => exact .negative htext
  | string value => exact .string (isString_encode value (all_string_iff.1 hplain))
  | list elements ih =>
      obtain ⟨-, hplain⟩ := all_list_iff.1 hplain
      cases elements with
      | nil => exact .emptyList isBlanks_nil
      | cons first elements =>
          exact .list (isElements_compact fun element hmem => ih element hmem (hplain element hmem))
  | object members ih =>
      obtain ⟨hkeys, hplain⟩ := all_object_iff.1 hplain
      cases members with
      | nil => exact .emptyObject isBlanks_nil
      | cons first members =>
          exact .object (isMembers_compact hkeys
            fun member hmem => ih member hmem (hplain member hmem))

/-- An object with a list. -/
example : (Tree.object [("f", .list [.null, .boolean true]), ("g", .string "a")]).compact =
    Bytes.ofText "\x7b\"f\":[null,true],\"g\":\"a\"\x7d" := by
  decide +kernel

end Tree

end Json

end CallForest
