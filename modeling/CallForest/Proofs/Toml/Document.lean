import CallForest.Proofs.Toml.Line

/-! # Reading documents line by line

A document is read one statement after the other. A line without a statement is passed over, and an
assignment of a new key puts an entry behind the others. No statement takes a key away again: a key
that is there at some line is there in the end.

* `Toml.readFrom_next`, `Toml.readFrom_blank`: a line with a statement, and one without.
* `Toml.Entries.names`, `Toml.Draft.names_add`, `Toml.names_readFrom`: keys stay.
* `Toml.Draft.add_assignment`: a new key comes last.
* `Toml.head_of_statement`, `Toml.mem_names_readFrom`: a line that begins with a key assigns it. -/

namespace CallForest

namespace Toml

variable {rest tail behind chars blanks blanks' key : List Char} {next first : Char} {name : String}
  {draft draft' : Draft} {entries entries' : Entries} {found : Statement}

/-! ### One line -/

/-- Where nothing but blanks is left, the entries are complete. -/
theorem readFrom_end (hskip : skipBlank chars = []) :
    readFrom draft chars = .ok draft.entries := by
  rw [readFrom]
  split
  · rfl
  · rename_i hnext
    rw [hskip] at hnext
    cases hnext

/-- A **statement is added** to those in front of it. -/
theorem readFrom_next (hskip : skipBlank chars = first :: behind)
    (hread : Takes statement (first :: behind) found rest) (hadd : draft.add found = some draft') :
    readFrom draft chars = readFrom draft' rest := by
  obtain ⟨hshorter, hread⟩ := hread
  rw [readFrom]
  split
  · rename_i hnone
    rw [hskip] at hnone
    cases hnone
  · rename_i other more hnext
    obtain ⟨rfl, rfl⟩ := List.cons.inj (hskip.symm.trans hnext)
    simp only [hread, hadd]

/-- What is behind blanks and a comment where a line ends: nothing, or a newline. -/
theorem endLine_eq_ok (hend : endLine tail = .ok rest) :
    skipComment (skipBlank tail) = [] ∧ rest = [] ∨
      newline? (skipComment (skipBlank tail)) = some rest := by
  rw [endLine] at hend
  split at hend
  · rename_i hnone
    exact .inl ⟨hnone, (Except.ok.inj hend).symm⟩
  · split at hend
    · rename_i hnewline
      obtain rfl := Except.ok.inj hend
      exact .inr hnewline
    · cases hend

/-- A line ends with nothing or a newline, without a comment. -/
theorem endLine_of_newline? (hend : behind = [] ∧ rest = [] ∨ newline? behind = some rest) :
    endLine behind = .ok rest := by
  rcases hend with ⟨rfl, rfl⟩ | hnewline
  · rfl
  · rw [newline?.eq_def] at hnewline
    split at hnewline
    · obtain rfl := Option.some.inj hnewline
      rfl
    · obtain rfl := Option.some.inj hnewline
      rfl
    · cases hnewline

/-- A comment is a statement that says nothing, and so is an empty line. -/
theorem takes_blank (hend : endLine tail = .ok rest) (hskip : skipBlank tail = first :: behind) :
    Takes statement (first :: behind) .blank rest := by
  have hends := endLine_eq_ok hend
  rw [hskip] at hends
  by_cases hhash : first = '#'
  · subst hhash
    have hcomment : endLine (behind.dropWhile isCommentChar) = .ok rest := endLine_of_newline? hends
    refine ⟨?_, ?_⟩
    · exact Nat.lt_succ_of_le ((length_endLine_le hcomment).trans (length_dropWhile_le _ _))
    · show comment behind = _
      rw [comment]
      split
      · rename_i hfault
        rw [hcomment] at hfault
        cases hfault
      · rename_i hfound
        obtain rfl := Except.ok.inj (hcomment.symm.trans hfound)
        rfl
  · have hnoComment : skipComment (first :: behind) = first :: behind := by
      rw [skipComment.eq_2]
      simp [hhash]
    rw [hnoComment] at hends
    obtain ⟨hnone, -⟩ | hnewline := hends
    · cases hnone
    · refine ⟨length_newline?_lt hnewline, ?_⟩
      rw [statement.eq_2]
      · split
        · rename_i hfound
          obtain rfl := Option.some.inj (hnewline.symm.trans hfound)
          rfl
        · rename_i hfound
          rw [hnewline] at hfound
          cases hfound
      · simp [hhash]

/-- A **line without a statement** is passed over. -/
theorem readFrom_blank (draft : Draft) (hblanks : IsBlanks blanks)
    (hend : endLine tail = .ok rest) : readFrom draft (blanks ++ tail) = readFrom draft rest := by
  have hskip : skipBlank (blanks ++ tail) = skipBlank tail := skipBlank_append hblanks
  cases hbehind : skipBlank tail with
  | nil =>
      have hends := endLine_eq_ok hend
      rw [hbehind] at hends
      obtain ⟨-, rfl⟩ | hnewline := hends
      · rw [readFrom_end (hskip.trans hbehind), readFrom_end rfl]
      · cases hnewline
  | cons first behind =>
      exact readFrom_next (hskip.trans hbehind) (takes_blank hend hbehind) rfl

/-! ### Keys stay -/

namespace Entries

/-- The texts of the keys of a table. -/
def names (entries : Entries) : List String := entries.map (·.1.text)

/-- Keys of entries in front of others. -/
theorem names_append (entries entries' : Entries) :
    names (entries ++ entries') = entries.names ++ entries'.names := List.map_append

/-- A change under a key leaves all keys, and this one as well. -/
theorem names_alter {key : Key} {change : Option Node → Option Node}
    (halter : entries.alter key change = some entries') :
    entries.names ⊆ entries'.names ∧ key.text ∈ entries'.names := by
  induction entries generalizing entries' with
  | nil =>
      obtain ⟨node, -, rfl⟩ := Option.map_eq_some_iff.1 halter
      exact ⟨List.nil_subset _, List.mem_cons_self⟩
  | cons entry entries ih =>
      obtain ⟨other, node⟩ := entry
      rw [alter] at halter
      split at halter
      · rename_i hsame
        obtain ⟨node', -, rfl⟩ := Option.map_eq_some_iff.1 halter
        exact ⟨List.Subset.refl _, List.mem_cons.2 (.inl hsame.symm)⟩
      · obtain ⟨later, hlater, rfl⟩ := Option.map_eq_some_iff.1 halter
        obtain ⟨hkeep, hkey⟩ := ih hlater
        exact ⟨List.cons_subset_cons _ hkeep, List.mem_cons_of_mem _ hkey⟩

/-- A value that is entered leaves all keys, and the first one on its path. -/
theorem names_enter {value : Node} {key : Key} {path : List Key}
    (henter : entries.enter value key path = some entries') :
    entries.names ⊆ entries'.names ∧ (path.headD key).text ∈ entries'.names := by
  cases path <;> (rw [enter] at henter; exact names_alter henter)

/-- A change of the table that a header leads to leaves all keys, if that change does. -/
theorem names_reach {change : Entries → Option Entries} {path : List Key}
    (hchange : ∀ {entries entries' : Entries}, change entries = some entries' →
      entries.names ⊆ entries'.names)
    (hreach : entries.reach change path = some entries') : entries.names ⊆ entries'.names := by
  cases path with
  | nil => exact hchange (by rwa [reach] at hreach)
  | cons next path =>
      rw [reach] at hreach
      exact (names_alter hreach).1

/-- A header leaves all keys. -/
theorem names_headTable {span : Span} {key : Key}
    (hhead : entries.headTable span key = some entries') : entries.names ⊆ entries'.names := by
  rw [headTable] at hhead
  split at hhead
  · obtain rfl := Option.some.inj hhead
    rw [names_append]
    exact List.subset_append_left _ _
  -- The key itself goes to the end of the table, and the others stay where they are.
  · obtain rfl := Option.some.inj hhead
    rw [names_append]
    intro name hname
    obtain ⟨entry, hentry, rfl⟩ := List.mem_map.1 hname
    by_cases hkey : entry.1.text = key.text
    · exact List.mem_append_right _ (List.mem_singleton.2 hkey)
    · refine List.mem_append_left _ (List.mem_map.2 ⟨entry, ?_, rfl⟩)
      exact List.mem_filter.2 ⟨hentry, decide_eq_true hkey⟩
  · cases hhead

end Entries

/-- **No statement takes a key away.** -/
theorem Draft.names_add (hadd : draft.add found = some draft') :
    draft.entries.names ⊆ draft'.entries.names := by
  cases found with
  | blank =>
      obtain rfl := Option.some.inj hadd
      exact List.Subset.refl _
  | assignment path node =>
      obtain ⟨entries, hentries, rfl⟩ := Option.map_eq_some_iff.1 hadd
      split at hentries
      · exact (Entries.names_enter hentries).1
      · exact Entries.names_reach (fun hbelow => (Entries.names_alter hbelow).1) hentries
  | table path span =>
      obtain ⟨entries, hentries, rfl⟩ := Option.map_eq_some_iff.1 hadd
      exact Entries.names_reach Entries.names_headTable hentries
  | row path span =>
      obtain ⟨entries, hentries, rfl⟩ := Option.map_eq_some_iff.1 hadd
      exact Entries.names_reach (fun hrow => (Entries.names_alter hrow).1) hentries

/-- The keys so far are keys of the document. -/
theorem names_readFrom (hread : readFrom draft chars = .ok entries) :
    draft.entries.names ⊆ entries.names := by
  fun_induction readFrom draft chars with
  | case1 =>
      obtain rfl := Except.ok.inj hread
      exact List.Subset.refl _
  | case2 => cases hread
  | case3 => cases hread
  | case4 =>
      rename_i hadd ih
      exact List.Subset.trans (Draft.names_add hadd) (ih hread)

/-! ### Assignments -/

/-- Under a **new key** a value comes behind the other entries. -/
theorem Entries.alter_new {key : Key} {change : Option Node → Option Node} {node : Node}
    (hnew : key.text ∉ entries.names) (hchange : change none = some node) :
    entries.alter key change = some (entries ++ [(key, node)]) := by
  induction entries with
  | nil => rw [alter, hchange, List.nil_append, Option.map_some]
  | cons entry entries ih =>
      obtain ⟨hother, hnew⟩ := not_or.1 (mt List.mem_cons.2 hnew)
      rw [alter, if_neg (Ne.symm hother), ih hnew]
      rfl

/-- So it does where no header stands above it. -/
theorem Draft.add_assignment {key : Key} {node : Node} (hnew : key.text ∉ entries.names) :
    add ⟨entries, none⟩ (.assignment ⟨[], key⟩ node) = some ⟨entries ++ [(key, node)], none⟩ := by
  have henter : entries.enter node key [] = some (entries ++ [(key, node)]) := by
    rw [Entries.enter]
    exact Entries.alter_new hnew rfl
  rw [add]
  simp only [henter, Option.map_some]

/-- An assignment begins with its path. -/
theorem assignment_eq_ok {reader : Reader Node} {step : Step chars (Path × Node)}
    (hread : assignment reader chars = .ok step) :
    ∃ path, keyPath chars = .ok path ∧ step.value.1 = path.value := by
  rw [assignment] at hread
  cases hpath : keyPath chars with
  | error fault =>
      rw [hpath] at hread
      cases hread
  | ok path =>
      refine ⟨path, rfl, ?_⟩
      rw [hpath] at hread
      simp only [bind, Except.bind] at hread
      split at hread
      · cases hread
      · split at hread
        · cases hread
        · obtain rfl := Except.ok.inj hread
          rfl

/-- A line that begins with a key and goes on like an assignment **assigns the key**, or something
below it. -/
theorem head_of_statement (hkey : IsKey name key) (hblanks : IsBlanks blanks)
    (hnext : next = '=' ∨ next = '.') {step : Step (key ++ (blanks ++ next :: rest)) Statement}
    (hread : statement (key ++ (blanks ++ next :: rest)) = .ok step) :
    ∃ path node, step.value = .assignment path node ∧ path.head.text = name := by
  obtain ⟨first, more, hbegins, hfirst⟩ := hkey.exists_cons
  simp only [List.mem_cons, List.not_mem_nil, or_false, not_or] at hfirst
  obtain ⟨-, -, hline, hreturn, hhash, hbracket, -⟩ := hfirst
  have hdefinition : definition (key ++ (blanks ++ next :: rest)) = .ok step := by
    subst hbegins
    exact (statement_cons hhash hline hreturn _).symm.trans hread
  have hheader : header? (key ++ (blanks ++ next :: rest)) = none := by
    rw [hbegins]
    exact header?_cons hbracket _
  rw [definition, hheader] at hdefinition
  simp only at hdefinition
  split at hdefinition
  · cases hdefinition
  · rename_i found hfound
    obtain ⟨path, hpath, hvalue⟩ := assignment_eq_ok hfound
    refine ⟨found.value.1, found.value.2, ?_, ?_⟩
    · rw [Step.endLine] at hdefinition
      split at hdefinition
      · cases hdefinition
      · obtain rfl := Except.ok.inj hdefinition
        rfl
    · rw [hvalue]
      exact head_of_keyPath hkey hblanks hnext hpath

/-- A document in which such a line is met **holds the key**. -/
theorem mem_names_readFrom (hkey : IsKey name key) (hblanks : IsBlanks blanks)
    (hblanks' : IsBlanks blanks') (hnext : next = '=' ∨ next = '.')
    (hread : readFrom ⟨entries, none⟩ (blanks' ++ (key ++ (blanks ++ next :: rest))) =
      .ok entries') :
    name ∈ entries'.names := by
  obtain ⟨first, more, hbegins, -⟩ := hkey.exists_cons
  have hskip : skipBlank (blanks' ++ (key ++ (blanks ++ next :: rest))) =
      key ++ (blanks ++ next :: rest) := by
    rw [skipBlank_append hblanks', hkey.skipBlank_append]
  rw [readFrom] at hread
  split at hread
  · rename_i hnone
    rw [hskip, hbegins] at hnone
    cases hnone
  · rename_i hsome
    split at hread
    · cases hread
    · rename_i found rest hshorter hfound
      split at hread
      · cases hread
      · rename_i hadd
        -- The statement that is met first assigns the key, which stays from then on.
        have htakes : Takes statement _ found rest := ⟨hshorter, hfound⟩
        rw [← hsome, hskip] at htakes
        obtain ⟨hshorter, hfound⟩ := htakes
        obtain ⟨path, node, rfl, hname⟩ := head_of_statement hkey hblanks hnext hfound
        obtain ⟨later, henter, rfl⟩ := Option.map_eq_some_iff.1 hadd
        rw [← hname]
        exact names_readFrom hread (Entries.names_enter henter).2

end Toml

end CallForest
