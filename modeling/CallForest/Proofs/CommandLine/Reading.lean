import CallForest.Proofs.CommandLine.Grammar
import CallForest.Proofs.ListSplit
import CallForest.Proofs.Toml.Numeral

/-! # Reading command lines

A command line that gives each thing at most once is read, in whichever way and order its words
spell it. A value is checked only when the next option comes, so that a draft may be one value
behind what has been given.

* `ArgumentDraft.of`: the draft of what has been given.
* `ArgumentDraft.take_of`: a value that is new is taken.
* `ArgumentDraft.Reached`: drafts in the course of reading.
* `ArgumentDraft.takeShort_of_isCluster`, `ArgumentDraft.takeAll_of_spells`: letters, and whole
  command lines are read.
* `Arguments.of`, `Arguments.parse_of_spells`: what a command line is understood to ask for. -/

namespace CallForest

namespace Argument

/-! ### Looking arguments up -/

/-- The input. -/
def input? : Argument → Option String
  | input path => some path
  | _ => none

/-- The directory that diagrams are written to. -/
def outputDir? : Argument → Option String
  | outputDir path => some path
  | _ => none

/-- The format of the diagrams. -/
def format? : Argument → Option OutputFormat
  | format chosen => some chosen
  | _ => none

/-- How many regions are rendered at a time. -/
def jobs? : Argument → Option Nat
  | jobs count => some count
  | _ => none

/-- The layout program. -/
def dotProgram? : Argument → Option String
  | dotProgram name => some name
  | _ => none

/-- The configuration file. -/
def configFile? : Argument → Option String
  | configFile path => some path
  | _ => none

/-- The flag that is given. -/
def flag? : Argument → Option FlagName
  | flag name => some name
  | _ => none

/-- Only the input is an input. -/
theorem option_of_isSome_input? (argument : Argument) (hinput : argument.input?.isSome = true) :
    argument.option = .value .input := by
  cases argument <;> first | rfl | cases hinput

end Argument

namespace ArgumentDraft

variable {draft : ArgumentDraft} {given added : List Argument} {argument : Argument} {text : String}
  {words : List String} {name : ValueName}

/-- The draft **of what has been given**, with all values checked. -/
def of (given : List Argument) : ArgumentDraft where
  input := given.findSome? Argument.input?
  outputDir := given.findSome? Argument.outputDir?
  format := given.findSome? Argument.format?
  jobs := given.findSome? Argument.jobs?
  dotProgram := given.findSome? Argument.dotProgram?
  configFile := given.findSome? Argument.configFile?
  flags := (given.filterMap Argument.flag?).reverse

/-- A draft with one more argument, unless its place is filled already. -/
def give (draft : ArgumentDraft) : Argument → ArgumentDraft
  | .input path => { draft with input := draft.input.or (some path) }
  | .outputDir path => { draft with outputDir := draft.outputDir.or (some path) }
  | .format format => { draft with format := draft.format.or (some format) }
  | .jobs count => { draft with jobs := draft.jobs.or (some count) }
  | .dotProgram name => { draft with dotProgram := draft.dotProgram.or (some name) }
  | .configFile path => { draft with configFile := draft.configFile.or (some path) }
  | .flag name => { draft with flags := name :: draft.flags }

/-- What is given last is looked up last. -/
theorem of_append (given : List Argument) (argument : Argument) :
    of (given ++ [argument]) = (of given).give argument := by
  simp only [of, List.findSome?_append, List.filterMap_append, List.reverse_append]
  cases argument <;> simp [give, Argument.input?, Argument.outputDir?, Argument.format?,
    Argument.jobs?, Argument.dotProgram?, Argument.configFile?, Argument.flag?]

/-- The flags are those that are given. -/
theorem contains_flags_of (given : List Argument) (flag : FlagName) :
    (of given).flags.contains flag = decide (.flag flag ∈ given) := by
  rw [List.contains_eq_mem, decide_eq_decide, of, List.mem_reverse, List.mem_filterMap]
  constructor
  · rintro ⟨argument, hmem, hflag⟩
    cases argument <;> cases hflag
    exact hmem
  · exact fun hmem => ⟨_, hmem, rfl⟩

/-- Decimal digits make up their number. -/
theorem foldl_decimal {count : Nat} {digits : List Char} (hdigits : Toml.IsNumber 10 count digits) :
    digits.foldl (fun value digit => value * 10 + (digit.toNat - '0'.toNat)) 0 = count := by
  obtain ⟨values, hvalues, hradix, hcount⟩ := hdigits
  have hfold : ∀ start,
      digits.foldl (fun value digit => value * 10 + (digit.toNat - '0'.toNat)) start =
        values.foldl (fun number value => number * 10 + value) start := by
    clear hcount
    induction hvalues with
    | nil => exact fun _ => rfl
    | cons hdigit _ ih =>
        obtain ⟨hvalue, hradix⟩ := List.forall_mem_cons.1 hradix
        obtain ⟨-, hdigit⟩ | ⟨hleast, -⟩ := hdigit
        · intro start
          rw [List.foldl_cons, List.foldl_cons, ih hradix, hdigit, Nat.add_sub_cancel_left]
        · omega
  rw [hfold, Toml.foldl_eq_ofDigits, Nat.ofDigits_append, hcount]
  simp

/-- A number in decimal digits is read. -/
theorem countOf_eq {count : Nat} {sign digits : List Char} (hcount : count < 2 ^ 64)
    (hsign : sign = [] ∨ sign = ['+']) (hdigits : Toml.IsNumber 10 count digits)
    (hne : digits ≠ []) : countOf (String.ofList (sign ++ digits)) = .ok count := by
  have hunsigned : (if (sign ++ digits).head? = some '+' then (sign ++ digits).tail
      else sign ++ digits) = digits := by
    rcases hsign with rfl | rfl
    · refine if_neg fun hplus => ?_
      have hdigit := (hdigits.isDigit (List.mem_of_mem_head? hplus)).1
      exact absurd hdigit (by decide)
    · exact if_pos rfl
  have hall : digits.all Char.isDigit = true :=
    List.all_eq_true.2 fun digit hdigit => (hdigits.isDigit hdigit).1
  have hcount' : count ≤ 0xffffffffffffffff := Nat.le_of_lt_succ hcount
  have hread : countOf? (sign ++ digits) = some count := by
    simp only [countOf?, hunsigned, foldl_decimal hdigits]
    exact if_pos ⟨hne, hall, hcount'⟩
  rw [countOf, String.toList_ofList, hread]

/-- **A value that is new is taken.** -/
theorem take_of (htext : argument.IsText text) (hoption : argument.option = .value name)
    (hnew : argument.option ∉ given.map Argument.option) :
    (of given).take text name = .ok (of (given ++ [argument])) := by
  -- Nothing is in the place that the value fills.
  have hplace : ∀ {α : Type} (field : Argument → Option α),
      (∀ other, (field other).isSome = true → other.option = argument.option) →
        given.findSome? field = none := fun field hfield => findSome?_eq_none_of_notMem hfield hnew
  rw [of_append]
  cases htext with
  | input hpath =>
      cases hoption
      have hnone : (of given).input = none := hplace _ Argument.option_of_isSome_input?
      have hread : pathOf text = .ok text := if_neg hpath
      rw [take, give, hnone, hread]
      rfl
  | outputDir hpath =>
      cases hoption
      have hnone : (of given).outputDir = none := hplace _ fun other hother => by
        cases other <;> first | rfl | cases hother
      have hread : pathOf text = .ok text := if_neg hpath
      rw [take, give, hnone, hread]
      rfl
  | format format =>
      cases hoption
      have hnone : (of given).format = none := hplace _ fun other hother => by
        cases other <;> first | rfl | cases hother
      have hread : formatOf format.name = .ok format := by
        rw [formatOf, OutputFormat.ofName?_name]
      rw [take, give, hnone, hread]
      rfl
  | jobs hcount hsign hdigits hne =>
      cases hoption
      have hnone : (of given).jobs = none := hplace _ fun other hother => by
        cases other <;> first | rfl | cases hother
      rw [take, give, hnone, countOf_eq hcount hsign hdigits hne]
      rfl
  | dotProgram name =>
      cases hoption
      have hnone : (of given).dotProgram = none := hplace _ fun other hother => by
        cases other <;> first | rfl | cases hother
      rw [take, give, hnone]
      rfl
  | configFile hpath =>
      cases hoption
      have hnone : (of given).configFile = none := hplace _ fun other hother => by
        cases other <;> first | rfl | cases hother
      have hread : pathOf text = .ok text := if_neg hpath
      rw [take, give, hnone, hread]
      rfl

/-! ### Drafts in the course of reading -/

/-- A **draft that is reached** where something has been given: the last value may still have to be
checked. -/
inductive Reached (given : List Argument) : ArgumentDraft → Prop where
  /-- Everything has been checked. -/
  | settled : Reached given (of given)
  /-- The last value is still to be checked. -/
  | pending {earlier : List Argument} {argument : Argument} {name : ValueName} {text : String}
      (hgiven : given = earlier ++ [argument]) (hoption : argument.option = .value name)
      (htext : argument.IsText text) (hnew : argument.option ∉ earlier.map Argument.option) :
      Reached given { of earlier with pending := some (name, some text) }

/-- The draft is settled before anything else is taken. -/
theorem Reached.settle_eq (hreached : Reached given draft) : draft.settle = .ok (of given) := by
  cases hreached with
  | settled => rfl
  | pending hgiven hoption htext hnew =>
      subst hgiven
      exact take_of htext hoption hnew

/-- The input is there if it has been given. -/
theorem Reached.hasInput_eq (hreached : Reached given draft)
    (hnew : .value .input ∉ given.map Argument.option) : draft.hasInput = false := by
  have hnone : ∀ {earlier : List Argument}, .value .input ∉ earlier.map Argument.option →
      (of earlier).input = none :=
    findSome?_eq_none_of_notMem Argument.option_of_isSome_input?
  cases hreached with
  | settled =>
      rw [hasInput, hnone hnew]
      rfl
  | @pending earlier argument name text hgiven hoption htext _ =>
      subst hgiven
      rw [List.map_append, List.mem_append, not_or] at hnew
      have hother : name ≠ .input := by
        rintro rfl
        exact hnew.2 (List.mem_singleton.2 hoption.symm)
      rw [hasInput]
      simp [hnone hnew.1, hother]

/-- A **value in a word of its own** is kept until it is checked. -/
theorem Reached.pend (hoption : argument.option = .value name) (htext : argument.IsText text)
    (hnew : argument.option ∉ given.map Argument.option) :
    Reached (given ++ [argument]) { of given with pending := some (name, some text) } :=
  .pending rfl hoption htext hnew

/-- A word of its own is the **input**. -/
theorem Reached.takeInput_eq (hreached : Reached given draft)
    (hnew : .value .input ∉ given.map Argument.option) (path : String) :
    draft.takeInput path = .ok { of given with pending := some (.input, some path) } := by
  rw [takeInput, hreached.hasInput_eq hnew, hreached.settle_eq]
  rfl

/-- So it is where no value is awaited. -/
theorem Reached.takePlain_eq (hreached : Reached given draft)
    (hnew : .value .input ∉ given.map Argument.option) (path : String) :
    draft.takePlain path = .ok { of given with pending := some (.input, some path) } := by
  have hinput := hreached.takeInput_eq hnew path
  cases hreached <;> exact hinput

/-- A **flag** is raised. -/
theorem Reached.raise_eq {flag : FlagName} (hreached : Reached given draft)
    (hnew : .flag flag ∉ given.map Argument.option) :
    draft.raise flag = .ok (of (given ++ [.flag flag])) := by
  have hlowered : (of given).flags.contains flag = false := by
    rw [contains_flags_of, decide_eq_false_iff_not]
    exact fun hmem => hnew (List.mem_map.2 ⟨_, hmem, rfl⟩)
  rw [raise, hreached.settle_eq, of_append]
  simp only [bind, Except.bind, hlowered]
  rfl

/-- A **value that is attached** is taken. -/
theorem Reached.attach_eq (hreached : Reached given draft) (htext : argument.IsText text)
    (hoption : argument.option = .value name)
    (hnew : argument.option ∉ given.map Argument.option) :
    draft.attach name text = .ok (of (given ++ [argument])) := by
  rw [attach, hreached.settle_eq]
  exact take_of htext hoption hnew

/-- A **value is awaited**. -/
theorem Reached.await_eq (hreached : Reached given draft) (name : ValueName) :
    draft.await name = .ok { of given with pending := some (name, none) } := by
  rw [await, hreached.settle_eq]
  rfl

/-! ### Words -/

/-- The options of long names, in which there is no equals sign. -/
theorem ofLong?_eq {long : String} {option : OptionName} (hlong : (long, option) ∈ longNames) :
    OptionName.ofLong? long = some option ∧ long.toList ≠ [] ∧ '=' ∉ long.toList := by
  simp only [longNames, List.mem_cons, List.not_mem_nil, or_false, Prod.mk.injEq] at hlong
  rcases hlong with ⟨rfl, rfl⟩ | ⟨rfl, rfl⟩ | ⟨rfl, rfl⟩ | ⟨rfl, rfl⟩ | ⟨rfl, rfl⟩ | ⟨rfl, rfl⟩ |
    ⟨rfl, rfl⟩ | ⟨rfl, rfl⟩ <;> exact ⟨rfl, by decide, by decide⟩

/-- The options of letters, none of which is a dash. -/
theorem ofShort?_eq {letter : Char} {option : OptionName}
    (hletter : (letter, option) ∈ shortLetters) :
    OptionName.ofShort? letter = some option ∧ letter ≠ '-' := by
  simp only [shortLetters, List.mem_cons, List.not_mem_nil, or_false, Prod.mk.injEq] at hletter
  rcases hletter with ⟨rfl, rfl⟩ | ⟨rfl, rfl⟩ | ⟨rfl, rfl⟩ | ⟨rfl, rfl⟩ | ⟨rfl, rfl⟩ <;>
    exact ⟨rfl, by decide⟩

/-- A word behind two dashes is a long name, up to an equals sign. -/
theorem takeAll_word {word : String} {name : List Char} (hword : word.toList = '-' :: '-' :: name)
    (hne : name ≠ []) (words : List String) :
    takeAll false draft (word :: words) =
      draft.takeLong (String.ofList (name.takeWhile (· ≠ '=')))
        ((name.dropWhile (· ≠ '=')).tail?.map String.ofList) >>= fun draft =>
          takeAll false draft words := by
  obtain ⟨first, more, rfl⟩ := List.exists_cons_of_ne_nil hne
  rw [takeAll, if_neg Bool.false_ne_true]
  simp only [hword]

/-- What an equals sign does not belong to ends in front of it. -/
theorem takeWhile_equals {name : List Char} (hequals : '=' ∉ name) {rest : List Char}
    (hrest : rest = [] ∨ ∃ behind, rest = '=' :: behind) :
    (name ++ rest).takeWhile (· ≠ '=') = name ∧ (name ++ rest).dropWhile (· ≠ '=') = rest := by
  have hall : ∀ character ∈ name, decide (character ≠ '=') = true := fun character hmem =>
    decide_eq_true fun hsame => hequals (hsame ▸ hmem)
  rw [List.takeWhile_append_of_pos hall, List.dropWhile_append_of_pos hall]
  rcases hrest with rfl | ⟨behind, rfl⟩
  · exact ⟨List.append_nil name, rfl⟩
  · exact ⟨List.append_nil name, rfl⟩

/-- A word may be a **long name** throughout. -/
theorem takeAll_long {long : String} {option : OptionName} (hlong : (long, option) ∈ longNames)
    (words : List String) :
    takeAll false draft (("--" ++ long) :: words) =
      draft.takeLong long none >>= fun draft => takeAll false draft words := by
  obtain ⟨-, hne, hequals⟩ := ofLong?_eq hlong
  obtain ⟨htake, hdrop⟩ := takeWhile_equals hequals (.inl rfl)
  rw [List.append_nil] at htake hdrop
  have hword : ("--" ++ long).toList = '-' :: '-' :: long.toList := String.toList_append
  rw [takeAll_word hword hne, htake, hdrop, String.ofList_toList]
  rfl

/-- A **value may stand behind** the equals sign. -/
theorem takeAll_assigned {long : String} {option : OptionName} (hlong : (long, option) ∈ longNames)
    (text : String) (words : List String) :
    takeAll false draft (("--" ++ (long ++ ("=" ++ text))) :: words) =
      draft.takeLong long (some text) >>= fun draft => takeAll false draft words := by
  obtain ⟨-, hne, hequals⟩ := ofLong?_eq hlong
  obtain ⟨htake, hdrop⟩ := takeWhile_equals hequals (.inr ⟨text.toList, rfl⟩)
  have hword : ("--" ++ (long ++ ("=" ++ text))).toList =
      '-' :: '-' :: (long.toList ++ '=' :: text.toList) := by
    simp only [String.toList_append]
    rfl
  rw [takeAll_word hword (List.append_ne_nil_of_left_ne_nil hne _), htake, hdrop,
    String.ofList_toList, List.tail?_cons, Option.map_some, String.ofList_toList]

/-- A word behind one dash is a **row of letters**. -/
theorem takeAll_letters {letter : Char} {letters : List Char} (hletter : letter ≠ '-')
    (words : List String) :
    takeAll false draft (String.ofList ('-' :: letter :: letters) :: words) =
      draft.takeShort (letter :: letters) >>= fun draft => takeAll false draft words := by
  rw [takeAll, if_neg Bool.false_ne_true]
  simp only [String.toList_ofList]
  split
  · simp_all
  · simp_all
  · simp_all
  · simp_all

/-- A **plain word** is the value that is awaited, or the input. -/
theorem takeAll_plain {word : String} (hplain : IsPlain word) (words : List String) :
    takeAll false draft (word :: words) =
      draft.takePlain word >>= fun draft => takeAll false draft words := by
  rw [takeAll, if_neg Bool.false_ne_true]
  rcases hplain with rfl | hplain
  · rfl
  · split
    · simp_all
    · simp_all
    · simp_all
    · rfl

/-! ### Command lines -/

/-- What is given once is new where it is given. -/
theorem option_notMem_of_nodup
    (hdistinct : ((given ++ argument :: added).map Argument.option).Nodup) :
    argument.option ∉ given.map Argument.option := by
  rw [List.map_append, List.nodup_append] at hdistinct
  exact fun hmem => hdistinct.2.2 _ hmem _ List.mem_cons_self rfl

/-- The next word is the **value that is awaited**. -/
theorem takeAll_awaited (hplain : IsPlain text) (words : List String) :
    takeAll false { of given with pending := some (name, none) } (text :: words) =
      takeAll false { of given with pending := some (name, some text) } words :=
  takeAll_plain hplain words

/-- **Letters behind a dash are taken**, with the word behind them that belongs to them. -/
theorem takeShort_of_isCluster {letters : List Char} {following : List String}
    (hletters : IsCluster letters following added) (hreached : Reached given draft)
    (hdistinct : ((given ++ added).map Argument.option).Nodup) :
    ∃ taken later, draft.takeShort letters = .ok taken ∧ Reached (given ++ added) later ∧
      ∀ words, takeAll false taken (following ++ words) = takeAll false later words := by
  induction hletters generalizing given draft with
  | @flag letter flag hletter =>
      have hraise := hreached.raise_eq (option_notMem_of_nodup hdistinct)
      refine ⟨_, _, ?_, .settled, fun words => rfl⟩
      rw [takeShort, (ofShort?_eq hletter).1]
      simp only [bind, Except.bind, hraise]
      rfl
  | @next letter flag letters following added hletter _ ih =>
      have hraise := hreached.raise_eq (option_notMem_of_nodup hdistinct)
      rw [List.append_cons] at hdistinct ⊢
      obtain ⟨taken, later, htaken, hlater, hwords⟩ := ih .settled hdistinct
      refine ⟨taken, later, ?_, hlater, hwords⟩
      rw [takeShort, (ofShort?_eq hletter).1]
      simp only [bind, Except.bind, hraise]
      exact htaken
  | @attached letter name argument text hletter hoption htext hne hequals =>
      have hattach := hreached.attach_eq htext hoption (option_notMem_of_nodup hdistinct)
      refine ⟨_, _, ?_, .settled, fun words => rfl⟩
      obtain ⟨first, more, hbegins⟩ :=
        List.exists_cons_of_ne_nil fun hnil => hne (String.toList_eq_nil_iff.1 hnil)
      rw [hbegins] at hequals
      rw [hbegins, takeShort, (ofShort?_eq hletter).1]
      rw [← String.ofList_toList (s := text), hbegins] at hattach
      simp only
      split
      · simp_all
      · simp_all
      · simp_all
  | @assigned letter name argument text hletter hoption htext =>
      have hattach := hreached.attach_eq htext hoption (option_notMem_of_nodup hdistinct)
      refine ⟨_, _, ?_, .settled, fun words => rfl⟩
      rw [takeShort, (ofShort?_eq hletter).1]
      simp only [String.ofList_toList]
      exact hattach
  | @apart letter name argument text hletter hoption htext hplain =>
      refine ⟨_, _, ?_, .pend hoption htext (option_notMem_of_nodup hdistinct),
        takeAll_awaited hplain⟩
      rw [takeShort, (ofShort?_eq hletter).1]
      exact hreached.await_eq name

/-- Behind two dashes alone the **input** may be any word. -/
theorem takeAll_closed {paths : List String} (hpaths : ∀ path ∈ paths, path ≠ "")
    (hreached : Reached given draft)
    (hdistinct : ((given ++ paths.map Argument.input).map Argument.option).Nodup) :
    takeAll true draft paths = .ok (of (given ++ paths.map .input)) := by
  induction paths generalizing given draft with
  | nil =>
      rw [List.map_nil, List.append_nil, takeAll]
      exact hreached.settle_eq
  | cons path paths ih =>
      obtain ⟨hpath, hpaths⟩ := List.forall_mem_cons.1 hpaths
      have hnew := option_notMem_of_nodup hdistinct
      rw [List.map_cons, List.append_cons] at hdistinct ⊢
      rw [takeAll, if_pos rfl, hreached.takeInput_eq hnew]
      exact ih hpaths (.pend rfl (.input hpath) hnew) hdistinct

/-- **A command line is read** to its end. -/
theorem takeAll_of_spells (hspells : Spells words added) (hreached : Reached given draft)
    (hdistinct : ((given ++ added).map Argument.option).Nodup) :
    takeAll false draft words = .ok (of (given ++ added)) := by
  induction hspells generalizing given draft with
  | nil =>
      rw [List.append_nil, takeAll]
      exact hreached.settle_eq
  | @input path words added hpath hplain hrest ih =>
      have hnew := option_notMem_of_nodup hdistinct
      rw [List.append_cons] at hdistinct ⊢
      rw [takeAll_plain hplain, hreached.takePlain_eq hnew]
      exact ih (.pend rfl (.input hpath) hnew) hdistinct
  | flag hlong hrest ih =>
      have hraise := hreached.raise_eq (option_notMem_of_nodup hdistinct)
      rw [List.append_cons] at hdistinct ⊢
      rw [takeAll_long hlong, takeLong.eq_def, (ofLong?_eq hlong).1]
      simp only [hraise]
      exact ih .settled hdistinct
  | assigned hlong hoption htext hrest ih =>
      have hattach := hreached.attach_eq htext hoption (option_notMem_of_nodup hdistinct)
      rw [List.append_cons] at hdistinct ⊢
      rw [takeAll_assigned hlong, takeLong.eq_def, (ofLong?_eq hlong).1]
      simp only [hattach]
      exact ih .settled hdistinct
  | @apart long text name argument words added hlong hoption htext hplain hrest ih =>
      have hnew := option_notMem_of_nodup hdistinct
      rw [List.append_cons] at hdistinct ⊢
      rw [takeAll_long hlong, takeLong.eq_def, (ofLong?_eq hlong).1]
      simp only [hreached.await_eq name]
      exact (takeAll_awaited hplain words).trans (ih (.pend hoption htext hnew) hdistinct)
  | @cluster letters following words added later hletters hrest ih =>
      rw [← List.append_assoc] at hdistinct ⊢
      have hdistinct' := hdistinct
      rw [List.map_append] at hdistinct'
      obtain ⟨taken, reached, htaken, hreached, hwords⟩ :=
        takeShort_of_isCluster hletters hreached (List.nodup_append.1 hdistinct').1
      have hbegins : ∃ letter more, letters = letter :: more ∧ letter ≠ '-' := by
        cases hletters <;> exact ⟨_, _, rfl, (ofShort?_eq ‹_›).2⟩
      obtain ⟨letter, more, rfl, hletter⟩ := hbegins
      rw [takeAll_letters hletter, htaken]
      exact (hwords words).trans (ih hreached hdistinct)
  | closed hpaths => exact takeAll_closed hpaths hreached hdistinct

end ArgumentDraft

namespace Arguments

open ArgumentDraft

variable {words : List String} {given : List Argument} {path : String}

/-- What a command line **asks for** that gives an input and other things. -/
def of (path : String) (given : List Argument) : Arguments where
  input := path
  outputDir := given.findSome? Argument.outputDir?
  format := given.findSome? Argument.format?
  includePassing := decide (.flag .includePassing ∈ given)
  excludeFailing := decide (.flag .excludeFailing ∈ given)
  jobs := given.findSome? Argument.jobs?
  dotProgram := given.findSome? Argument.dotProgram?
  configFile := given.findSome? Argument.configFile?
  verbose := decide (.flag .verbose ∈ given)

/-- **A command line that gives the input, and each thing at most once, is understood**, however it
is spelled. -/
theorem parse_of_spells (hspells : Spells words given)
    (hdistinct : (given.map Argument.option).Nodup) (hinput : .input path ∈ given) :
    Arguments.parse words = .ok (.of path given) := by
  have hread : takeAll false {} words = .ok (ArgumentDraft.of given) :=
    takeAll_of_spells hspells (.settled : Reached [] _) hdistinct
  have hpath : (ArgumentDraft.of given).input = some path :=
    findSome?_eq_some_of_mem Argument.option_of_isSome_input? hdistinct hinput rfl
  rw [Arguments.parse, hread]
  show (ArgumentDraft.of given).complete = _
  rw [complete, hpath]
  simp only [contains_flags_of]
  rfl

end Arguments

end CallForest
