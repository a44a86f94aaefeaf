import CallForest.Proofs.Toml.Numeral
import CallForest.Toml.Document

/-! # Reading lines

A line is the assignment of a setting or nothing, with blanks in front and a comment behind. An
assignment is read with its key and its value, up to the end of its line, and the statement that it
makes says what the setting is.

* `Toml.EndsLine`, `Toml.endLine_append`: the end of a line.
* `Toml.takes_keyText`, `Toml.takes_keyPath`, `Toml.head_of_keyPath`: keys are read, and a path
  begins with its first key.
* `Toml.takes_scalar`, `Toml.takes_value_of_scalar`: the value of a setting is read.
* `Toml.takes_assignment`, `Toml.takes_statement`: its assignment is a statement. -/

namespace CallForest

namespace Toml

variable {rest text key value blanks blanks' comment line ending tail behind : List Char}
  {first next : Char} {name : String} {setting : Setting}

/-! ### The end of a line -/

/-- What stands **behind the end of a line**: what comes after its newline, or nothing, where the
document ends without one. -/
def EndsLine (tail rest : List Char) : Prop :=
  (∃ line, IsNewline line ∧ tail = line ++ rest) ∨ tail = [] ∧ rest = []

/-- The end of a line begins with a newline. -/
theorem EndsLine.head (htail : EndsLine tail rest) :
    ∀ first ∈ tail.head?, first = '\n' ∨ first = '\r' := by
  obtain ⟨line, hline, rfl⟩ | ⟨rfl, rfl⟩ := htail
  · cases hline <;> (rintro first ⟨⟩; decide)
  · exact fun first hfirst => absurd hfirst (Option.not_mem_none first)

/-- Comments are skipped. -/
theorem skipComment_append (hcomment : IsComment comment) (htail : EndsLine tail rest) :
    skipComment (comment ++ tail) = tail := by
  have hnoComment : skipComment tail = tail := by
    obtain ⟨line, hline, rfl⟩ | ⟨rfl, rfl⟩ := htail
    · cases hline <;> rfl
    · rfl
  cases hcomment with
  | none => exact hnoComment
  | @some text htext =>
      have hall : ∀ character ∈ text, isCommentChar character = true :=
        fun character hmem => isStringChar_iff.2 (htext character hmem)
      show (text ++ tail).dropWhile isCommentChar = tail
      rw [List.dropWhile_append_of_pos hall]
      obtain ⟨line, hline, rfl⟩ | ⟨rfl, rfl⟩ := htail
      · cases hline <;> rfl
      · rfl

/-- **The end of a line**: blanks, a comment and a newline are passed over. -/
theorem endLine_append (hending : Setting.IsLineEnd ending) (htail : EndsLine tail rest) :
    endLine (ending ++ tail) = .ok rest := by
  obtain ⟨blanks, comment, hblanks, hcomment, rfl⟩ := hending
  have hskip : skipComment (skipBlank ((blanks ++ comment) ++ tail)) = tail := by
    rw [List.append_assoc, skipBlank_append hblanks]
    have hnoBlank : skipBlank (comment ++ tail) = comment ++ tail := by
      cases hcomment with
      | none =>
          obtain ⟨line, hline, rfl⟩ | ⟨rfl, rfl⟩ := htail
          · rw [List.nil_append, skipBlank_newline hline]
          · rfl
      | some htext => exact skipBlank_cons (by decide) (by decide)
    rw [hnoBlank, skipComment_append hcomment htail]
  rw [endLine]
  simp only [hskip]
  obtain ⟨line, hline, rfl⟩ | ⟨rfl, rfl⟩ := htail
  · cases hline <;> rfl
  · rfl

/-- A value may stand in front of the end of a line. -/
theorem EndsLine.endsValue (hending : Setting.IsLineEnd ending) (htail : EndsLine tail rest) :
    EndsValue (ending ++ tail) := by
  obtain ⟨blanks, comment, hblanks, hcomment, rfl⟩ := hending
  cases blanks with
  | cons blank blanks =>
      rintro first ⟨⟩
      rcases hblanks blank List.mem_cons_self with rfl | rfl <;> decide
  | nil =>
      cases hcomment with
      | some htext =>
          rintro first ⟨⟩
          decide
      | none =>
          intro first hfirst
          rcases htail.head first hfirst with rfl | rfl <;> decide

/-! ### Keys -/

/-- A character of a bare key is one that is read. -/
theorem isBareChar_iff : isBareChar first = true ↔ IsKeyChar first := by
  simp [isBareChar, IsKeyChar, or_assoc]

/-- A text of such characters is a key as it stands. -/
theorem isKey_toList (hne : name.toList ≠ []) (hall : name.toList.all isBareChar = true) :
    IsKey name name.toList := by
  have hbare := IsKey.bare hne fun character hmem =>
    isBareChar_iff.1 (List.all_eq_true.1 hall character hmem)
  rwa [String.ofList_toList] at hbare

/-- What a key begins with is no blank, no newline and nothing that begins another statement. -/
theorem IsKey.exists_cons (hkey : IsKey name key) :
    ∃ first more, key = first :: more ∧ first ∉ [' ', '\t', '\n', '\r', '#', '[', '\ufeff'] := by
  cases hkey with
  | bare hne htext =>
      obtain ⟨first, more, rfl⟩ := List.exists_cons_of_ne_nil hne
      refine ⟨first, more, rfl, fun hmem => ?_⟩
      have hfirst := isBareChar_iff.2 (htext first List.mem_cons_self)
      simp only [List.mem_cons, List.not_mem_nil, or_false] at hmem
      rcases hmem with rfl | rfl | rfl | rfl | rfl | rfl | rfl <;> revert hfirst <;> decide
  | @quoted literal chars text hbody =>
      refine ⟨_, _, rfl, ?_⟩
      cases literal <;> decide

/-- A bare key is read up to a character of another kind. -/
theorem takes_bareKey (hne : text ≠ []) (htext : ∀ character ∈ text, IsKeyChar character)
    (hrest : ∀ first ∈ rest.head?, ¬ IsKeyChar first) :
    Takes keyText (text ++ rest) (String.ofList text) rest := by
  obtain ⟨first, more, rfl⟩ := List.exists_cons_of_ne_nil hne
  obtain ⟨hfirst, hmore⟩ := List.forall_mem_cons.1 htext
  have hmarks : first ≠ '"' ∧ first ≠ '\'' := by
    refine ⟨?_, ?_⟩ <;> rintro rfl <;> exact absurd (isBareChar_iff.2 hfirst) (by decide)
  have hmore : ∀ character ∈ more, isBareChar character = true :=
    fun character hmem => isBareChar_iff.2 (hmore character hmem)
  have hnone : rest.takeWhile isBareChar = [] ∧ rest.dropWhile isBareChar = rest := by
    cases rest with
    | nil => exact ⟨rfl, rfl⟩
    | cons next rest =>
        have hnext : ¬ isBareChar next = true := mt isBareChar_iff.1 (hrest next rfl)
        exact ⟨List.takeWhile_cons_of_neg hnext, List.dropWhile_cons_of_neg hnext⟩
  have htake : (more ++ rest).takeWhile isBareChar = more := by
    rw [List.takeWhile_append_of_pos hmore, hnone.1, List.append_nil]
  have hdrop : (more ++ rest).dropWhile isBareChar = rest := by
    rw [List.dropWhile_append_of_pos hmore, hnone.2]
  refine ⟨?_, ?_⟩
  · rw [List.length_append, List.length_cons]
    omega
  · show keyText (first :: (more ++ rest)) = _
    rw [keyText, if_neg hmarks.1, if_neg hmarks.2, if_pos (isBareChar_iff.2 hfirst)]
    simp only [htake, hdrop]

/-- The text of a **key is read**. -/
theorem takes_keyText (hkey : IsKey name key) (hrest : ∀ first ∈ rest.head?, ¬ IsKeyChar first) :
    Takes keyText (key ++ rest) name rest := by
  cases hkey with
  | bare hne htext => exact takes_bareKey hne htext hrest
  | @quoted literal chars text hbody =>
      have hread : Takes (stringBody ⟨literal, false⟩ []) (text ++ rest) (String.ofList chars)
          rest :=
        takes_stringBody hbody (fun hlong => absurd hlong Bool.false_ne_true) []
      obtain ⟨hshorter, hread⟩ := hread
      refine ⟨Nat.lt_succ_of_lt hshorter, ?_⟩
      cases literal with
      | false =>
          show keyText ('"' :: (text ++ rest)) = _
          rw [keyText, if_pos rfl, hread]
          rfl
      | true =>
          show keyText ('\'' :: (text ++ rest)) = _
          rw [keyText, if_neg (by decide), if_pos rfl, hread]
          rfl

/-- No blanks are skipped in front of a key. -/
theorem IsKey.skipBlank_append (hkey : IsKey name key) (rest : List Char) :
    skipBlank (key ++ rest) = key ++ rest := by
  obtain ⟨first, more, rfl, hfirst⟩ := hkey.exists_cons
  refine skipBlank_cons ?_ ?_ <;> rintro rfl <;> exact hfirst (by decide)

/-- Blanks, and what stands behind a key in a path, do not belong to the key. -/
theorem takes_key (hkey : IsKey name key) (hblanks : IsBlanks blanks)
    (hnext : next = '=' ∨ next = '.') (rest : List Char) :
    ∃ span, Takes Toml.key (skipBlank (key ++ (blanks ++ next :: rest))) ⟨name, span⟩
      (blanks ++ next :: rest) := by
  have hends : ∀ first ∈ (blanks ++ next :: rest).head?, ¬ IsKeyChar first := by
    intro first hfirst hchar
    have hbare := isBareChar_iff.2 hchar
    cases blanks with
    | nil =>
        obtain rfl := Option.mem_some.1 hfirst
        rcases hnext with rfl | rfl <;> revert hbare <;> decide
    | cons blank blanks =>
        obtain rfl := Option.mem_some.1 hfirst
        rcases hblanks _ List.mem_cons_self with rfl | rfl <;> revert hbare <;> decide
  obtain ⟨hshorter, hread⟩ := takes_keyText hkey hends
  rw [hkey.skipBlank_append]
  refine ⟨.between (key ++ (blanks ++ next :: rest)) (blanks ++ next :: rest), hshorter, ?_⟩
  rw [Toml.key, hread]
  rfl

/-- What stands behind the blanks behind a key. -/
theorem skipBlank_behindKey (hblanks : IsBlanks blanks) (hnext : next = '=' ∨ next = '.') :
    skipBlank (blanks ++ next :: rest) = next :: rest := by
  rw [skipBlank_append hblanks]
  rcases hnext with rfl | rfl <;> exact skipBlank_cons (by decide) (by decide)

/-- A **key that stands alone is read** as a path. -/
theorem takes_keyPath (hkey : IsKey name key) (hblanks : IsBlanks blanks) (rest : List Char) :
    ∃ span, Takes keyPath (key ++ (blanks ++ '=' :: rest)) ⟨[], ⟨name, span⟩⟩ ('=' :: rest) := by
  obtain ⟨span, hshorter, hread⟩ := takes_key hkey hblanks (.inl rfl) rest
  have hkeys : Takes keys (key ++ (blanks ++ '=' :: rest)) ⟨[], ⟨name, span⟩⟩ ('=' :: rest) := by
    rw [Takes, keys]
    simp only [hread]
    split
    · rename_i hnone
      rw [skipBlank_behindKey hblanks (.inl rfl)] at hnone
      cases hnone
    · rename_i first more hsome
      obtain ⟨rfl, rfl⟩ := List.cons.inj ((skipBlank_behindKey hblanks (.inl rfl)).symm.trans hsome)
      rw [hkey.skipBlank_append] at hshorter
      exact ⟨Nat.lt_of_le_of_lt (List.suffix_append blanks _).length_le hshorter, rfl⟩
  obtain ⟨hshorter, hread⟩ := hkeys
  have hlength : Path.length ⟨[], ⟨name, span⟩⟩ ≤ pathLimit := Nat.le_of_ble_eq_true rfl
  refine ⟨span, hshorter, ?_⟩
  rw [keyPath, hread]
  exact if_pos hlength

/-- The first key of a path. -/
def Path.head (path : Path) : Key := path.leading.headD path.last

/-- A path begins with its **first key**, whatever stands behind it. -/
theorem head_of_keyPath (hkey : IsKey name key) (hblanks : IsBlanks blanks)
    (hnext : next = '=' ∨ next = '.') {step : Step (key ++ (blanks ++ next :: rest)) Path}
    (hpath : keyPath (key ++ (blanks ++ next :: rest)) = .ok step) :
    step.value.head.text = name := by
  obtain ⟨span, hshorter, hread⟩ := takes_key hkey hblanks hnext rest
  have hkeys : keys (key ++ (blanks ++ next :: rest)) = .ok step := by
    rw [keyPath] at hpath
    split at hpath
    · cases hpath
    · rename_i found hfound
      split at hpath
      · rw [hfound, hpath]
      · cases hpath
  rw [keys] at hkeys
  simp only [hread] at hkeys
  -- Further keys come behind the first one.
  split at hkeys
  · obtain rfl := Except.ok.inj hkeys
    rfl
  · split at hkeys
    · split at hkeys
      · obtain rfl := Except.ok.inj hkeys
        rfl
      · split at hkeys
        · cases hkeys
        · obtain rfl := Except.ok.inj hkeys
          rfl
    · obtain rfl := Except.ok.inj hkeys
      rfl

/-! ### Values -/

/-- The scalar of a setting. -/
def scalarOf : Setting → Scalar
  | .outputDir path => .string path
  | .format format => .string format.name
  | .includePassing shown | .includeFailing shown => .boolean shown
  | .jobs count => .integer count
  | .dotProgram name => .string name

/-- A string may end where a value may. -/
theorem EndsValue.endsString (hrest : EndsValue rest) : EndsString rest := by
  intro first hfirst
  rcases hrest first hfirst with rfl | rfl | rfl | rfl | rfl <;> decide

/-- A string is a scalar. -/
theorem takes_stringScalar {path : String} (htext : IsString path text) (hrest : EndsValue rest) :
    Takes scalar (text ++ rest) (.string path) rest := by
  have hstep : ∀ {first : Char} {more : List Char}, (first = '"' || first = '\'') = true →
      Takes string (first :: more) path rest →
        Takes scalar (first :: more) (.string path) rest := by
    rintro first more hfirst ⟨hshorter, hread⟩
    refine ⟨hshorter, ?_⟩
    rw [scalar, if_pos hfirst, hread]
    rfl
  have hread := takes_string htext hrest.endsString
  cases htext with
  | @short literal chars text hbody => cases literal <;> exact hstep (by decide) hread
  | @long literal chars line text hbody hline => cases literal <;> exact hstep (by decide) hread

/-- A truth value is a scalar. -/
theorem takes_truth (shown : Bool) (rest : List Char) :
    Takes scalar (Setting.truthText shown ++ rest) (.boolean shown) rest := by
  have hword : ∀ {wanted : List Char} {found : Scalar}, wanted ≠ [] →
      Takes (word wanted found) (wanted ++ rest) found rest := by
    intro wanted found hne
    refine ⟨?_, ?_⟩
    · have := List.length_pos_iff.2 hne
      rw [List.length_append]
      omega
    · rw [word, dif_pos ⟨hne, List.prefix_append wanted rest⟩]
      simp
  cases shown with
  | true => exact (hword (by decide) : Takes (word "true".toList (.boolean true)) _ _ rest)
  | false => exact (hword (by decide) : Takes (word "false".toList (.boolean false)) _ _ rest)

/-- **The value of a setting is read.** -/
theorem takes_scalar (hvalue : setting.IsValue text) (hrest : EndsValue rest) :
    Takes scalar (text ++ rest) (scalarOf setting) rest := by
  cases hvalue with
  | outputDir htext => exact takes_stringScalar htext hrest
  | format htext => exact takes_stringScalar htext hrest
  | includePassing shown => exact takes_truth shown rest
  | includeFailing shown => exact takes_truth shown rest
  | jobs hcount htext => exact takes_integer hcount htext hrest
  | dotProgram htext => exact takes_stringScalar htext hrest

/-- A scalar is a value, however deep it stands. -/
theorem takes_value_of_scalar {chars : List Char} {found : Scalar}
    (hscalar : Takes scalar chars found rest) (budget : Nat) :
    Takes (Toml.value budget) chars (.scalar found (.between chars rest)) rest := by
  obtain ⟨hshorter, hread⟩ := hscalar
  cases chars with
  | nil => cases hread
  | cons first more =>
      have hopen : first ≠ '[' ∧ first ≠ '\x7b' := by
        refine ⟨?_, ?_⟩ <;> rintro rfl <;> cases hread
      refine ⟨hshorter, ?_⟩
      cases budget with
      | zero =>
          rw [Toml.value, if_neg (by simp [hopen]), hread]
          rfl
      | succ budget =>
          rw [Toml.value, if_neg hopen.1, if_neg hopen.2, hread]
          rfl

/-- No blanks are skipped in front of a scalar. -/
theorem Takes.skipBlank_eq {chars : List Char} {found : Scalar}
    (hscalar : Takes scalar chars found rest) : skipBlank chars = chars := by
  obtain ⟨hshorter, hread⟩ := hscalar
  cases chars with
  | nil => rfl
  | cons first more => refine skipBlank_cons ?_ ?_ <;> rintro rfl <;> cases hread

/-! ### Statements -/

/-- The **assignment of a setting is read**: its key, and its value. -/
theorem takes_assignment (hkey : IsKey setting.key key) (hblanks : IsBlanks blanks)
    (hblanks' : IsBlanks blanks') (hvalue : setting.IsValue value) (hrest : EndsValue rest) :
    ∃ place span, Takes (assignment (Toml.value nestingLimit))
      (key ++ (blanks ++ '=' :: (blanks' ++ (value ++ rest))))
      (⟨[], ⟨setting.key, place⟩⟩, .scalar (scalarOf setting) span) rest := by
  obtain ⟨place, hbehind, hpath⟩ := takes_keyPath hkey hblanks (blanks' ++ (value ++ rest))
  have hscalar := takes_scalar hvalue hrest
  have hvalue : Takes (Toml.value nestingLimit) (skipBlank (blanks' ++ (value ++ rest)))
      (.scalar (scalarOf setting) (.between (value ++ rest) rest)) rest := by
    rw [skipBlank_append hblanks', hscalar.skipBlank_eq]
    exact takes_value_of_scalar hscalar nestingLimit
  obtain ⟨hshorter, hread⟩ := hvalue
  have hequals : mark '=' ('=' :: (blanks' ++ (value ++ rest))) = .ok (.one ()) := by
    rw [mark, if_pos rfl]
  have hwithin : rest.length < (key ++ (blanks ++ '=' :: (blanks' ++ (value ++ rest)))).length :=
    Nat.lt_trans (Nat.lt_of_lt_of_le hshorter (length_skipBlank_le _)) (Nat.lt_of_succ_lt hbehind)
  refine ⟨place, .between (value ++ rest) rest, hwithin, ?_⟩
  rw [assignment, hpath]
  simp only [bind, Except.bind, hequals, Step.one, hread]
  rfl

/-- A statement that begins with something else is no header. -/
theorem header?_cons (hbracket : first ≠ '[') (rest : List Char) :
    header? (first :: rest) = none := by
  rw [header?.eq_4] <;> simp [hbracket]

/-- Neither is it a comment, nor an empty line. -/
theorem statement_cons (hhash : first ≠ '#') (hline : first ≠ '\n') (hreturn : first ≠ '\r')
    (rest : List Char) : statement (first :: rest) = definition (first :: rest) := by
  rw [statement.eq_2]
  · split
    · rename_i found hfound
      rw [newline?_cons hline hreturn] at hfound
      cases hfound
    · rfl
  · simp [hhash]

/-- An assignment whose line ends is a statement. -/
theorem takes_statement {path : Path} {node : Node} (hkey : IsKey name key)
    (hassignment : Takes (assignment (Toml.value nestingLimit)) (key ++ behind) (path, node) tail)
    (hend : endLine tail = .ok rest) :
    Takes statement (key ++ behind) (.assignment path node) rest := by
  obtain ⟨first, more, rfl, hfirst⟩ := hkey.exists_cons
  simp only [List.mem_cons, List.not_mem_nil, or_false, not_or] at hfirst
  obtain ⟨-, -, hline, hreturn, hhash, hbracket, -⟩ := hfirst
  rw [List.cons_append] at hassignment ⊢
  obtain ⟨hshorter, hread⟩ := hassignment
  refine ⟨Nat.lt_of_le_of_lt (length_endLine_le hend) hshorter, ?_⟩
  rw [statement_cons hhash hline hreturn, definition, header?_cons hbracket]
  simp only [hread, Step.map]
  rw [Step.endLine]
  split
  · rename_i fault hfault
    rw [hend] at hfault
    cases hfault
  · rename_i found hfound
    obtain rfl := Except.ok.inj (hend.symm.trans hfound)
    rfl

end Toml

end CallForest
