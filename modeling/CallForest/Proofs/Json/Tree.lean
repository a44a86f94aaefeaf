import CallForest.Json.Record

/-! # What JSON is

A JSON value as a tree, and the texts that write it, which leave open how much blank space stands
between the pieces, how characters are escaped and how exponents are marked. Objects are rows of
members, as they are written; numbers are numerals.

* `Json.Tree`, `Json.Tree.induction`: values.
* `Json.Numeral.IsText`, `Json.IsContent`, `Json.IsString`: texts of numerals and strings.
* `Json.Tree.IsText`, `Json.Tree.IsDocument`: texts of values.
* `Json.Tree.All`, `Json.Tree.Sound`: properties of all parts of a tree, and trees without repeated
  keys whose numbers are in range.
* `Json.Tree.depth`: how deep a tree is. -/

namespace CallForest

namespace Json

/-! ### Trees -/

/-- A **JSON value** as it is written: members of objects in their order, numbers as numerals. -/
inductive Tree where
  /-- The word `null`. -/
  | null
  /-- A truth value. -/
  | boolean (value : Bool)
  /-- A numeral, behind a minus sign or not. -/
  | number (negative : Bool) (numeral : Numeral)
  /-- A string. -/
  | string (value : String)
  /-- A list. -/
  | list (elements : List Tree)
  /-- An object. -/
  | object (members : List (String × Tree))

/-- What holds of a tree as soon as it holds of its parts holds of every tree. -/
@[elab_as_elim]
theorem Tree.induction {motive : Tree → Prop} (null : motive .null)
    (boolean : ∀ value, motive (.boolean value))
    (number : ∀ negative numeral, motive (.number negative numeral))
    (string : ∀ value, motive (.string value))
    (list : ∀ elements, (∀ tree ∈ elements, motive tree) → motive (.list elements))
    (object : ∀ members, (∀ member ∈ members, motive member.2) → motive (.object members))
    (tree : Tree) : motive tree := by
  -- Elements and members have motives of their own: each of them has the property.
  refine @Tree.rec motive (fun trees => ∀ tree ∈ trees, motive tree)
    (fun members => ∀ member ∈ members, motive member.2) (fun member => motive member.2)
    null boolean number string list object ?_ ?_ ?_ ?_ (fun _ _ htree => htree) tree
  · simp
  · exact fun _ _ hfirst hrest => List.forall_mem_cons.2 ⟨hfirst, hrest⟩
  · simp
  · exact fun _ _ hfirst hrest => List.forall_mem_cons.2 ⟨hfirst, hrest⟩

/-! ### Pieces of text -/

/-- A text of blanks only. -/
def IsBlanks (blanks : Bytes) : Prop := ∀ byte ∈ blanks, isBlank byte = true

/-- A row of at least one digit. -/
def IsDigits (digits : Bytes) : Prop := digits ≠ [] ∧ ∀ byte ∈ digits, isDigit byte = true

/-- A text of an exponent: its mark, a sign that may be left out if it is plus, and digits. -/
inductive Exponent.IsText : Exponent → Bytes → Prop where
  /-- A mark of either case. -/
  | intro {mark : UInt8} {negative : Bool} {sign digits : Bytes} (hmark : mark = 0x65 ∨ mark = 0x45)
      (hsign : sign ∈ if negative then [[0x2d]] else [[], [0x2b]]) (hdigits : IsDigits digits) :
      IsText ⟨negative, digits⟩ (mark :: (sign ++ digits))

/-- A **text of a numeral** without its sign: digits, which begin with zero only if they are just
that, a fraction and an exponent, which may be left out. -/
inductive Numeral.IsText : Numeral → Bytes → Prop where
  /-- The parts one after the other. -/
  | intro {whole point mark : Bytes} {fraction : Option Bytes} {exponent : Option Exponent}
      (hwhole : IsDigits whole) (hzero : whole.head? = some 0x30 → whole = [0x30])
      (hfraction : match fraction with
        | none => point = []
        | some digits => IsDigits digits ∧ point = 0x2e :: digits)
      (hexponent : match exponent with
        | none => mark = []
        | some exponent => exponent.IsText mark) :
      IsText ⟨whole, fraction, exponent⟩ (whole ++ (point ++ mark))

/-- A hexadecimal digit of either case, with its value. -/
def IsHexDigit (value : Nat) (byte : UInt8) : Prop :=
  (value < 10 ∧ byte.toNat = 0x30 + value) ∨
    (10 ≤ value ∧ value < 16 ∧
      (byte.toNat = 0x41 + (value - 10) ∨ byte.toNat = 0x61 + (value - 10)))

/-- Four hexadecimal digits of a number. -/
inductive IsFourHex : Nat → Bytes → Prop where
  /-- The digits, the first of which counts most. -/
  | intro {a b c d : Nat} {w x y z : UInt8} (ha : IsHexDigit a w) (hb : IsHexDigit b x)
      (hc : IsHexDigit c y) (hd : IsHexDigit d z) :
      IsFourHex (((a * 16 + b) * 16 + c) * 16 + d) [w, x, y, z]

/-- The letters that stand for characters behind a backslash. -/
def letters : List (UInt8 × Char) :=
  [(0x22, '\"'), (0x5c, '\\'), (0x2f, '/'), (0x62, '\x08'), (0x66, '\x0c'), (0x6e, '\n'),
    (0x72, '\x0d'), (0x74, '\t')]

/-- A **text of a row of characters** inside quotes: each stands for itself, unless it is a quote, a
backslash or a control character, or is escaped by a letter, by its number, or by the numbers of a
pair of surrogates. -/
inductive IsContent : List Char → Bytes → Prop where
  /-- There are no characters. -/
  | nil : IsContent [] []
  /-- A character stands for itself. -/
  | plain {character : Char} {characters : List Char} {rest : Bytes}
      (hplain : character ≠ '\"' ∧ character ≠ '\\' ∧ 0x20 ≤ character.toNat)
      (hrest : IsContent characters rest) :
      IsContent (character :: characters) (String.utf8EncodeChar character ++ rest)
  /-- A letter stands for a character. -/
  | letter {letter : UInt8} {character : Char} {characters : List Char} {rest : Bytes}
      (hletter : (letter, character) ∈ letters) (hrest : IsContent characters rest) :
      IsContent (character :: characters) (0x5c :: letter :: rest)
  /-- The number of a character. -/
  | number {character : Char} {characters : List Char} {digits rest : Bytes}
      (hdigits : IsFourHex character.toNat digits) (hrest : IsContent characters rest) :
      IsContent (character :: characters) (0x5c :: 0x75 :: (digits ++ rest))
  /-- The numbers of a pair of surrogates. -/
  | pair {character : Char} {characters : List Char} {high low rest : Bytes}
      (hlarge : 0x10000 ≤ character.toNat)
      (hhigh : IsFourHex (0xd800 + (character.toNat - 0x10000) / 0x400) high)
      (hlow : IsFourHex (0xdc00 + (character.toNat - 0x10000) % 0x400) low)
      (hrest : IsContent characters rest) :
      IsContent (character :: characters)
        (0x5c :: 0x75 :: (high ++ 0x5c :: 0x75 :: (low ++ rest)))

/-- A **text of a string**, with its quotes. -/
inductive IsString : String → Bytes → Prop where
  /-- The characters inside quotes. -/
  | intro {value : String} {content : Bytes} (hcontent : IsContent value.toList content) :
      IsString value (0x22 :: (content ++ [0x22]))

/-! ### Texts of trees -/

/-- A text of the elements of a list, with commas between them and blanks around them. -/
inductive IsElements (isText : Tree → Bytes → Prop) : List Tree → Bytes → Prop where
  /-- The last element. -/
  | last {tree : Tree} {before text behind : Bytes} (hbefore : IsBlanks before)
      (htext : isText tree text) (hbehind : IsBlanks behind) :
      IsElements isText [tree] (before ++ (text ++ behind))
  /-- An element with others behind it. -/
  | next {tree : Tree} {trees : List Tree} {before text behind rest : Bytes}
      (hbefore : IsBlanks before) (htext : isText tree text) (hbehind : IsBlanks behind)
      (hrest : IsElements isText trees rest) :
      IsElements isText (tree :: trees) (before ++ (text ++ (behind ++ 0x2c :: rest)))

/-- A text of the members of an object: keys, colons and values, with commas between the members and
blanks around everything. -/
inductive IsMembers (isText : Tree → Bytes → Prop) : List (String × Tree) → Bytes → Prop where
  /-- The last member. -/
  | last {name : String} {tree : Tree} {before key colon blank text behind : Bytes}
      (hbefore : IsBlanks before) (hkey : IsString name key) (hcolon : IsBlanks colon)
      (hblank : IsBlanks blank) (htext : isText tree text) (hbehind : IsBlanks behind) :
      IsMembers isText [(name, tree)]
        (before ++ (key ++ (colon ++ 0x3a :: (blank ++ (text ++ behind)))))
  /-- A member with others behind it. -/
  | next {name : String} {tree : Tree} {members : List (String × Tree)}
      {before key colon blank text behind rest : Bytes} (hbefore : IsBlanks before)
      (hkey : IsString name key) (hcolon : IsBlanks colon) (hblank : IsBlanks blank)
      (htext : isText tree text) (hbehind : IsBlanks behind)
      (hrest : IsMembers isText members rest) :
      IsMembers isText ((name, tree) :: members)
        (before ++ (key ++ (colon ++ 0x3a :: (blank ++ (text ++ (behind ++ 0x2c :: rest))))))

/-- A **text of a tree**, from its first byte to its last one. -/
inductive Tree.IsText : Tree → Bytes → Prop where
  /-- The word `null`. -/
  | null : IsText .null [0x6e, 0x75, 0x6c, 0x6c]
  /-- The word `true`. -/
  | true : IsText (.boolean true) [0x74, 0x72, 0x75, 0x65]
  /-- The word `false`. -/
  | false : IsText (.boolean false) [0x66, 0x61, 0x6c, 0x73, 0x65]
  /-- A numeral. -/
  | positive {numeral : Numeral} {text : Bytes} (htext : numeral.IsText text) :
      IsText (.number false numeral) text
  /-- A numeral behind a minus sign. -/
  | negative {numeral : Numeral} {text : Bytes} (htext : numeral.IsText text) :
      IsText (.number true numeral) (0x2d :: text)
  /-- A string. -/
  | string {value : String} {text : Bytes} (htext : IsString value text) :
      IsText (.string value) text
  /-- An empty list. -/
  | emptyList {blanks : Bytes} (hblanks : IsBlanks blanks) :
      IsText (.list []) (0x5b :: (blanks ++ [0x5d]))
  /-- A list. -/
  | list {elements : List Tree} {text : Bytes} (helements : IsElements IsText elements text) :
      IsText (.list elements) (0x5b :: (text ++ [0x5d]))
  /-- An empty object. -/
  | emptyObject {blanks : Bytes} (hblanks : IsBlanks blanks) :
      IsText (.object []) (0x7b :: (blanks ++ [0x7d]))
  /-- An object. -/
  | object {members : List (String × Tree)} {text : Bytes}
      (hmembers : IsMembers IsText members text) :
      IsText (.object members) (0x7b :: (text ++ [0x7d]))

/-- A **text of a document** that holds a tree: a text of the tree with blanks around it. -/
inductive Tree.IsDocument : Tree → Bytes → Prop where
  /-- Blanks, a text of the tree, and blanks. -/
  | intro {tree : Tree} {before text behind : Bytes} (hbefore : IsBlanks before)
      (htext : tree.IsText text) (hbehind : IsBlanks behind) :
      IsDocument tree (before ++ (text ++ behind))

/-! ### Conditions on trees -/

/-- A tree that is a **part** of another one, or the tree itself. -/
inductive Tree.IsPart (part : Tree) : Tree → Prop where
  /-- The tree itself. -/
  | self : IsPart part part
  /-- A part of an element. -/
  | element {tree : Tree} {elements : List Tree} (hmem : tree ∈ elements)
      (hpart : IsPart part tree) : IsPart part (.list elements)
  /-- A part of the value of a member. -/
  | member {member : String × Tree} {members : List (String × Tree)} (hmem : member ∈ members)
      (hpart : IsPart part member.2) : IsPart part (.object members)

/-- A property of **all parts** of a tree. -/
def Tree.All (property : Tree → Prop) (tree : Tree) : Prop :=
  ∀ part, IsPart part tree → property part

/-- An object that has no key twice, or anything else. -/
def Tree.HasDistinctKeys : Tree → Prop
  | .object members => (members.map Prod.fst).Nodup
  | _ => True

/-- A number that is finite as a double, in the way in which numbers are read, or anything else. -/
def Tree.IsInRange : Tree → Prop
  | .number negative numeral => (numeral.evaluate negative).isOk = true
  | _ => True

/-- A tree in which **no object has a key twice** and every number is **in range**. -/
structure Tree.Sound (tree : Tree) : Prop where
  /-- Keys tell the members of an object apart. -/
  hasDistinctKeys : tree.All HasDistinctKeys
  /-- No number is out of range. -/
  isInRange : tree.All IsInRange

namespace Tree

mutual

/-- How many lists and objects lie inside one another in a tree, at most. -/
def depth : Tree → Nat
  | .list elements => depthOfElements elements + 1
  | .object members => depthOfMembers members + 1
  | _ => 0

/-- How many lie inside one another in one of some elements. -/
def depthOfElements : List Tree → Nat
  | [] => 0
  | tree :: elements => max tree.depth (depthOfElements elements)

/-- How many lie inside one another in one of some members. -/
def depthOfMembers : List (String × Tree) → Nat
  | [] => 0
  | (_, tree) :: members => max tree.depth (depthOfMembers members)

end

variable {elements : List Tree} {members : List (String × Tree)} {tree : Tree} {name : String}

/-- An element is no deeper than the deepest one. -/
theorem depth_le_of_mem_elements (hmem : tree ∈ elements) :
    tree.depth ≤ depthOfElements elements := by
  induction elements with
  | nil => cases hmem
  | cons first elements ih =>
      rw [depthOfElements]
      obtain rfl | hmem := List.mem_cons.1 hmem
      · exact Nat.le_max_left _ _
      · exact Nat.le_trans (ih hmem) (Nat.le_max_right _ _)

/-- The value of a member is no deeper than the deepest one. -/
theorem depth_le_of_mem_members (hmem : (name, tree) ∈ members) :
    tree.depth ≤ depthOfMembers members := by
  induction members with
  | nil => cases hmem
  | cons first members ih =>
      obtain ⟨key, value⟩ := first
      rw [depthOfMembers]
      obtain hsame | hmem := List.mem_cons.1 hmem
      · obtain ⟨rfl, rfl⟩ := Prod.mk.inj hsame
        exact Nat.le_max_left _ _
      · exact Nat.le_trans (ih hmem) (Nat.le_max_right _ _)

section

variable {property : Tree → Prop}

/-- All parts of a list are the list and those of its elements. -/
@[simp] theorem all_list_iff :
    All property (.list elements) ↔
      property (.list elements) ∧ ∀ tree ∈ elements, All property tree := by
  refine ⟨fun hall => ⟨hall _ .self, fun tree hmem part hpart => hall part (.element hmem hpart)⟩,
    ?_⟩
  rintro ⟨hself, helements⟩ part hpart
  cases hpart with
  | self => exact hself
  | element hmem hpart => exact helements _ hmem part hpart

/-- All parts of an object are the object and those of the values of its members. -/
@[simp] theorem all_object_iff :
    All property (.object members) ↔
      property (.object members) ∧ ∀ member ∈ members, All property member.2 := by
  refine ⟨fun hall => ⟨hall _ .self, fun member hmem part hpart => hall part (.member hmem hpart)⟩,
    ?_⟩
  rintro ⟨hself, hmembers⟩ part hpart
  cases hpart with
  | self => exact hself
  | member hmem hpart => exact hmembers _ hmem part hpart

/-- The only part of `null` is itself. -/
@[simp] theorem all_null_iff : All property .null ↔ property .null :=
  ⟨fun hall => hall _ .self, fun hself part hpart => by cases hpart; exact hself⟩

/-- The only part of a truth value is itself. -/
@[simp] theorem all_boolean_iff {value : Bool} :
    All property (.boolean value) ↔ property (.boolean value) :=
  ⟨fun hall => hall _ .self, fun hself part hpart => by cases hpart; exact hself⟩

/-- The only part of a number is itself. -/
@[simp] theorem all_number_iff {negative : Bool} {numeral : Numeral} :
    All property (.number negative numeral) ↔ property (.number negative numeral) :=
  ⟨fun hall => hall _ .self, fun hself part hpart => by cases hpart; exact hself⟩

/-- The only part of a string is itself. -/
@[simp] theorem all_string_iff {value : String} :
    All property (.string value) ↔ property (.string value) :=
  ⟨fun hall => hall _ .self, fun hself part hpart => by cases hpart; exact hself⟩

end

namespace Sound

/-- The elements of a sound list are sound. -/
theorem of_mem_elements (hsound : Sound (.list elements)) (hmem : tree ∈ elements) :
    tree.Sound where
  hasDistinctKeys := (all_list_iff.1 hsound.hasDistinctKeys).2 tree hmem
  isInRange := (all_list_iff.1 hsound.isInRange).2 tree hmem

/-- The values of the members of a sound object are sound. -/
theorem of_mem_members {member : String × Tree} (hsound : Sound (.object members))
    (hmem : member ∈ members) : member.2.Sound where
  hasDistinctKeys := (all_object_iff.1 hsound.hasDistinctKeys).2 member hmem
  isInRange := (all_object_iff.1 hsound.isInRange).2 member hmem

/-- Keys tell the members of a sound object apart. -/
theorem nodup (hsound : Sound (.object members)) : (members.map Prod.fst).Nodup :=
  hsound.hasDistinctKeys _ .self

/-- A sound number is in range. -/
theorem isOk {negative : Bool} {numeral : Numeral} (hsound : Sound (.number negative numeral)) :
    (numeral.evaluate negative).isOk = true :=
  hsound.isInRange _ .self

end Sound

end Tree

end Json

end CallForest
