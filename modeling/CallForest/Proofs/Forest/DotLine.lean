import CallForest.Forest.Dot
import CallForest.Proofs.ListSplit
import CallForest.Proofs.Text.Escape

/-! # Reading the lines of DOT text back

A node can be read off its line and an edge off its own: quoted values end where their quote is,
keys where the equals sign is and numbers where their digits end. No value breaks its line, since
escaped texts contain no newline.

* `intercalate_dotAttribute_inj`: lists of attributes are unambiguous.
* `dotName_append_inj`: so are the names of nodes, in front of anything but a digit.
* `BranchNode.dotLine_inj`, `dotEdgeLine_injective`: so are the lines of nodes and edges. -/

namespace CallForest

/-! ### Attribute lists -/

/-- A key does not contain the sign between key and value. -/
def DotKey (key : String) : Prop := ∀ character ∈ key.toList, character ≠ '='

instance (key : String) : Decidable (DotKey key) :=
  inferInstanceAs (Decidable (∀ character ∈ key.toList, character ≠ '='))

/-- An attribute is a single line when its key is. -/
theorem newline_not_mem_dotAttribute {key value : String} (hkey : '\n' ∉ key.toList) :
    '\n' ∉ (dotAttribute key value).toList := by
  simp [dotAttribute, hkey, Label.newline_not_mem_quote]

/-- **An attribute and what stands behind it** are both found in the text they make. -/
theorem dotAttribute_append_inj {key key' value value' : String} {rest other : List Char}
    (hkey : DotKey key) (hkey' : DotKey key')
    (hsame : (dotAttribute key value).toList ++ rest = (dotAttribute key' value').toList ++ other) :
    (key, value) = (key', value') ∧ rest = other := by
  have hsplit : key.toList ++ '=' :: ((Label.quote value).toList ++ rest) =
      key'.toList ++ '=' :: ((Label.quote value').toList ++ other) := by
    simpa [dotAttribute] using hsame
  obtain ⟨hkeys, -, hquote⟩ :=
    append_cons_inj_of_forall hkey (not_not.2 rfl) hkey' (not_not.2 rfl) hsplit
  obtain ⟨rfl, rfl⟩ := Label.quote_append_inj hquote
  exact ⟨congrArg (·, value) (String.toList_injective hkeys), rfl⟩

/-- The attributes behind the first one, each after a separator, are found in their text. -/
theorem flatMap_dotAttribute_inj {separator : String} {fields fields' : List (String × String)}
    (hseparator : separator ≠ "") (hkeys : ∀ field ∈ fields, DotKey field.1)
    (hkeys' : ∀ field ∈ fields', DotKey field.1)
    (hsame :
      (fields.flatMap fun field => separator.toList ++ (dotAttribute field.1 field.2).toList) =
        fields'.flatMap fun field => separator.toList ++ (dotAttribute field.1 field.2).toList) :
    fields = fields' := by
  induction fields generalizing fields' with
  | nil =>
      cases fields' with
      | nil => rfl
      | cons field fields' => simp [hseparator] at hsame
  | cons field fields ih =>
      cases fields' with
      | nil => simp [hseparator] at hsame
      | cons field' fields' =>
          obtain ⟨hkey, hkeys⟩ := List.forall_mem_cons.1 hkeys
          obtain ⟨hkey', hkeys'⟩ := List.forall_mem_cons.1 hkeys'
          rw [List.flatMap_cons, List.flatMap_cons, List.append_assoc, List.append_assoc] at hsame
          obtain ⟨hfirst, hrest⟩ :=
            dotAttribute_append_inj hkey hkey' (List.append_cancel_left hsame)
          rw [ih hkeys hkeys' hrest]
          exact congrArg (· :: fields') hfirst

/-- A text of parts with separators between them, character by character. -/
theorem toList_intercalate_cons (separator first : String) (parts : List String) :
    (separator.intercalate (first :: parts)).toList =
      first.toList ++ parts.flatMap fun part => separator.toList ++ part.toList := by
  induction parts generalizing first with
  | nil => simp
  | cons second parts ih =>
      rw [String.intercalate_cons_cons, String.toList_append, String.toList_append, ih,
        List.flatMap_cons, List.append_assoc, List.append_assoc]

/-- Single lines with a single line between them make a single line. -/
theorem newline_not_mem_intercalate {separator : String} {parts : List String}
    (hseparator : '\n' ∉ separator.toList) (hparts : ∀ part ∈ parts, '\n' ∉ part.toList) :
    '\n' ∉ (separator.intercalate parts).toList := by
  cases parts with
  | nil => simp
  | cons first parts =>
      obtain ⟨hfirst, hparts⟩ := List.forall_mem_cons.1 hparts
      rw [toList_intercalate_cons]
      simp only [List.mem_append, List.mem_flatMap, not_or, not_exists, not_and]
      exact ⟨hfirst, fun part hpart => ⟨hseparator, hparts part hpart⟩⟩

/-- **A list of attributes is found in its text**, when it is not empty. -/
theorem intercalate_dotAttribute_inj {separator : String} {field field' : String × String}
    {fields fields' : List (String × String)} (hseparator : separator ≠ "")
    (hkeys : ∀ other ∈ field :: fields, DotKey other.1)
    (hkeys' : ∀ other ∈ field' :: fields', DotKey other.1)
    (hsame :
      separator.intercalate ((field :: fields).map fun other => dotAttribute other.1 other.2) =
        separator.intercalate
          ((field' :: fields').map fun other => dotAttribute other.1 other.2)) :
    field :: fields = field' :: fields' := by
  have hchars := congrArg String.toList hsame
  rw [List.map_cons, List.map_cons, toList_intercalate_cons, toList_intercalate_cons,
    List.flatMap_map, List.flatMap_map] at hchars
  obtain ⟨hkey, hkeys⟩ := List.forall_mem_cons.1 hkeys
  obtain ⟨hkey', hkeys'⟩ := List.forall_mem_cons.1 hkeys'
  obtain ⟨hfirst, hrest⟩ := dotAttribute_append_inj hkey hkey' hchars
  rw [flatMap_dotAttribute_inj hseparator hkeys hkeys' hrest]
  exact congrArg (· :: fields') hfirst

/-! ### Node names -/

/-- A decimal numeral is made of digits. -/
theorem forall_isDigit_toDigits (number : Nat) :
    ∀ digit ∈ Nat.toDigits 10 number, digit.isDigit := by
  intro digit hdigit
  exact Nat.isDigit_of_mem_toDigits (by decide) (by decide) hdigit

/-- **A node name and what stands behind it** are both found in the text they make, when no digit
stands right behind the name. -/
theorem dotName_append_inj {id id' : Nat} {mark : Char} {rest other : List Char}
    (hmark : ¬ mark.isDigit)
    (hsame : (dotName id).toList ++ mark :: rest = (dotName id').toList ++ mark :: other) :
    id = id' ∧ rest = other := by
  have hsplit : Nat.toDigits 10 id ++ mark :: rest = Nat.toDigits 10 id' ++ mark :: other := by
    simpa [dotName] using hsame
  obtain ⟨hid, -, hrest⟩ := append_cons_inj_of_forall (forall_isDigit_toDigits id) hmark
    (forall_isDigit_toDigits id') hmark hsplit
  -- Equal digits are read as the same number.
  have hread := congrArg (Nat.ofDigitChars 10 · 0) hid
  rw [Nat.ofDigitChars_ten_toDigits, Nat.ofDigitChars_ten_toDigits] at hread
  exact ⟨hread, hrest⟩

/-- A node name is a single line. -/
theorem newline_not_mem_dotName (id : Nat) : '\n' ∉ (dotName id).toList := by
  intro hline
  have hdigit : '\n' ∈ Nat.toDigits 10 id := by simpa [dotName] using hline
  exact absurd (forall_isDigit_toDigits id '\n' hdigit) (by decide)

/-! ### Nodes -/

/-- No two colors share a name. -/
theorem FillColor.name_injective : Function.Injective FillColor.name := by
  intro color other hname
  have hread := congrArg FillColor.ofName? hname
  rw [FillColor.ofName?_name, FillColor.ofName?_name] at hread
  exact Option.some.inj hread

namespace BranchNode

/-- The keys and values of a node, in the order of its attribute list. -/
def dotFields (node : BranchNode) : List (String × String) :=
  ("label", node.attributes.label) :: ("source", node.source) ::
    ((node.attributes.style.map fun style => ("style", style.name)).toList ++
      (node.attributes.fill.map fun color => ("fillcolor", color.name)).toList)

/-- The attribute list of a node is made of its keys and values. -/
theorem dotAttributes_eq_map (node : BranchNode) :
    node.dotAttributes = node.dotFields.map fun field => dotAttribute field.1 field.2 := by
  obtain ⟨id, source, parent, children, depth, label, fill, style⟩ := node
  cases style <;> cases fill <;> rfl

/-- The keys that a node can have. -/
def dotKeys : List String := ["label", "source", "style", "fillcolor"]

/-- A node has no other keys. -/
theorem mem_dotKeys_of_mem_dotFields {node : BranchNode} {field : String × String}
    (hfield : field ∈ node.dotFields) : field.1 ∈ dotKeys := by
  have hkeys : (node.dotFields.map Prod.fst).Sublist dotKeys := by
    obtain ⟨id, source, parent, children, depth, label, fill, style⟩ := node
    cases style <;> cases fill <;> simp [dotFields, dotKeys]
  exact hkeys.mem (List.mem_map_of_mem hfield)

/-- The keys of a node can be told from their values. -/
theorem dotKey_of_mem_dotFields {node : BranchNode} {field : String × String}
    (hfield : field ∈ node.dotFields) : DotKey field.1 := by
  have hkeys : ∀ key ∈ dotKeys, DotKey key := by simp [dotKeys, DotKey]
  exact hkeys field.1 (mem_dotKeys_of_mem_dotFields hfield)

/-- Keys and values tell the function and the attributes of a node. -/
theorem dotFields_inj {node other : BranchNode} (hfields : node.dotFields = other.dotFields) :
    node.source = other.source ∧ node.attributes = other.attributes := by
  obtain ⟨id, source, parent, children, depth, label, fill, style⟩ := node
  obtain ⟨id', source', parent', children', depth', label', fill', style'⟩ := other
  simp only [dotFields, List.cons.injEq, Prod.mk.injEq, true_and] at hfields
  obtain ⟨rfl, rfl, hrest⟩ := hfields
  -- A style and a fill color that are missing leave no field, and the keys tell the others apart.
  cases style <;> cases style' <;> cases fill <;> cases fill' <;>
    simp_all [NodeStyle.name, FillColor.name_injective.eq_iff]

/-- The line of a node, character by character. -/
theorem toList_dotLine (node : BranchNode) :
    node.dotLine.toList = "    ".toList ++ ((dotName node.id).toList ++
      ' ' :: '[' :: ((", ".intercalate node.dotAttributes).toList ++ "];".toList)) := by
  simp [dotLine]

/-- **The line of a node tells** its number, its function and its attributes. -/
theorem dotLine_inj {node other : BranchNode} (hline : node.dotLine = other.dotLine) :
    node.id = other.id ∧ node.source = other.source ∧ node.attributes = other.attributes := by
  have hchars := congrArg String.toList hline
  rw [toList_dotLine, toList_dotLine] at hchars
  obtain ⟨hid, hrest⟩ := dotName_append_inj (by decide) (List.append_cancel_left hchars)
  have hlist : ", ".intercalate node.dotAttributes = ", ".intercalate other.dotAttributes :=
    String.toList_injective (List.append_cancel_right (List.cons.inj hrest).2)
  rw [dotAttributes_eq_map, dotAttributes_eq_map] at hlist
  have hfields : node.dotFields = other.dotFields :=
    intercalate_dotAttribute_inj (by decide) (fun _ => dotKey_of_mem_dotFields)
      (fun _ => dotKey_of_mem_dotFields) hlist
  exact ⟨hid, dotFields_inj hfields⟩

/-- The line of a node is a single line. -/
theorem newline_not_mem_dotLine (node : BranchNode) : '\n' ∉ node.dotLine.toList := by
  have hkeys : ∀ key ∈ dotKeys, '\n' ∉ key.toList := by decide
  have hlist : '\n' ∉ (", ".intercalate node.dotAttributes).toList := by
    rw [dotAttributes_eq_map]
    refine newline_not_mem_intercalate (by decide) fun part hpart => ?_
    obtain ⟨field, hfield, rfl⟩ := List.mem_map.1 hpart
    exact newline_not_mem_dotAttribute (hkeys field.1 (mem_dotKeys_of_mem_dotFields hfield))
  rw [toList_dotLine]
  simp only [List.mem_append, List.mem_cons, not_or]
  exact ⟨by decide, newline_not_mem_dotName node.id, by decide, by decide, hlist, by decide⟩

/-- The line of a node is not empty. -/
theorem dotLine_ne_empty (node : BranchNode) : node.dotLine ≠ "" := by
  intro hempty
  have hchars := congrArg String.toList hempty
  rw [toList_dotLine] at hchars
  simp at hchars

end BranchNode

/-! ### Edges -/

/-- **The line of an edge tells** both of its nodes. -/
theorem dotEdgeLine_injective : Function.Injective dotEdgeLine := by
  rintro ⟨parent, child⟩ ⟨parent', child'⟩ hline
  have hchars : "    ".toList ++ ((dotName parent).toList ++ ' ' :: ("-> ".toList ++
      ((dotName child).toList ++ ';' :: []))) = "    ".toList ++ ((dotName parent').toList ++
        ' ' :: ("-> ".toList ++ ((dotName child').toList ++ ';' :: []))) := by
    simpa [dotEdgeLine] using congrArg String.toList hline
  obtain ⟨rfl, hrest⟩ := dotName_append_inj (by decide) (List.append_cancel_left hchars)
  obtain ⟨rfl, -⟩ := dotName_append_inj (by decide) (List.append_cancel_left hrest)
  rfl

/-- The line of an edge is a single line. -/
theorem newline_not_mem_dotEdgeLine (edge : Nat × Nat) : '\n' ∉ (dotEdgeLine edge).toList := by
  simp [dotEdgeLine, newline_not_mem_dotName]

end CallForest
