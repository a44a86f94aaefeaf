import CallForest.Config.Reading
import CallForest.Proofs.Toml.Document

/-! # Reading settings

The settings of a document are read, whichever way they are written, and in their order. A document
that assigns another key is refused, whatever stands behind that key.

* `Setting.Records`: entries that say what settings are.
* `Setting.readFrom_lines`: whole lines leave the entries of their settings.
* `Config.settings_of_isDocument`: the settings of a document are read.
* `Config.parse_of_assignsOther`: another key is refused. -/

namespace CallForest

open Toml

namespace Setting

variable {rest tail text lines blanks blanks' ending line key mark : List Char} {next : Char}
  {name : String} {setting : Option Setting} {settings added : List Setting}
  {entries entries' : Entries}

/-! ### Entries -/

/-- **Entries that say what settings are**, one for each of them. -/
def Records (settings : List Setting) (entries : Entries) : Prop :=
  List.Forall₂ (fun setting entry => entry.1.text = setting.key ∧
    ofEntry entry.1 entry.2 = .ok setting) settings entries

/-- What is read under the key of a setting is the setting. -/
theorem ofEntry_scalarOf (setting : Setting) (place span : Span) :
    ofEntry ⟨setting.key, place⟩ (.scalar (scalarOf setting) span) = .ok setting := by
  cases setting with
  | outputDir path => rfl
  | format format => cases format <;> rfl
  | includePassing shown => rfl
  | includeFailing shown => rfl
  | jobs count =>
      have hcount : Setting.count (.scalar (.integer count) span) = .ok count := by
        rw [Setting.count, if_neg (Int.not_lt.2 (Int.natCast_nonneg count)), Int.toNat_natCast]
      have hjobs := congrArg (fun found : Except Mistake Nat => (found.map Setting.jobs).mapError
        fun mistake => ((none : Option Span), mistake)) hcount
      exact hjobs
  | dotProgram name => rfl

/-- The keys of the entries are those of the settings. -/
theorem Records.names_eq (hrecords : Records settings entries) :
    entries.names = settings.map Setting.key := by
  induction hrecords with
  | nil => rfl
  | cons hentry _ ih => exact congrArg₂ List.cons hentry.1 ih

/-- The settings are read from the entries. -/
theorem Records.ofEntries_eq (hrecords : Records settings entries) :
    ofEntries entries = .ok settings := by
  rw [ofEntries]
  induction hrecords with
  | nil => rfl
  | cons hentry _ ih =>
      rw [List.mapM_cons, ih]
      simp only [hentry.2]
      rfl

/-- What is read under a key is a setting of that key. -/
theorem key_eq_of_ofEntry {key : Key} {node : Node} {setting : Setting}
    (hentry : ofEntry key node = .ok setting) : setting.key = key.text := by
  have hplain : ∀ {α : Type} {read : Except Mistake α} {make : α → Setting},
      (read.map make).mapError (fun mistake => ((none : Option Span), mistake)) = .ok setting →
        ∃ value, setting = make value := by
    intro α read make hread
    cases read with
    | error mistake => cases hread
    | ok value => exact ⟨value, (Except.ok.inj hread).symm⟩
  rw [ofEntry] at hentry
  split at hentry
  · obtain ⟨path, rfl⟩ := hplain hentry
    exact Eq.symm ‹_›
  · cases hread : formatOf node with
    | error mistake =>
        rw [hread] at hentry
        cases hentry
    | ok format =>
        rw [hread] at hentry
        obtain rfl := Except.ok.inj hentry
        exact Eq.symm ‹_›
  · obtain ⟨shown, rfl⟩ := hplain hentry
    exact Eq.symm ‹_›
  · obtain ⟨shown, rfl⟩ := hplain hentry
    exact Eq.symm ‹_›
  · obtain ⟨count, rfl⟩ := hplain hentry
    exact Eq.symm ‹_›
  · obtain ⟨name, rfl⟩ := hplain hentry
    exact Eq.symm ‹_›
  · cases hentry

/-- If a list is read, each of its elements is. -/
theorem exists_ok_of_mapM {α β ε : Type} {read : α → Except ε β} {elements : List α}
    {results : List β} (hread : elements.mapM read = .ok results) :
    ∀ element ∈ elements, ∃ result, read element = .ok result := by
  induction elements generalizing results with
  | nil => exact List.forall_mem_nil _
  | cons element elements ih =>
      rw [List.mapM_cons] at hread
      cases hfirst : read element with
      | error error =>
          rw [hfirst] at hread
          cases hread
      | ok result =>
          rw [hfirst] at hread
          cases hothers : elements.mapM read with
          | error error =>
              rw [hothers] at hread
              cases hread
          | ok others => exact List.forall_mem_cons.2 ⟨⟨result, hfirst⟩, ih hothers⟩

/-- A table from which settings are read has no other keys. -/
theorem exists_key_of_ofEntries (hentries : ofEntries entries = .ok settings)
    (hname : name ∈ entries.names) : ∃ setting : Setting, setting.key = name := by
  obtain ⟨⟨key, node⟩, hentry, rfl⟩ := List.mem_map.1 hname
  obtain ⟨setting, hsetting⟩ := exists_ok_of_mapM hentries _ hentry
  cases hfound : ofEntry key node with
  | error mistake =>
      simp only [hfound] at hsetting
      cases hsetting
  | ok found => exact ⟨found, key_eq_of_ofEntry hfound⟩

/-! ### Lines -/

/-- The **line of a setting** leaves an entry behind the others, and a blank one leaves none. -/
theorem readFrom_line (hrecords : Records settings entries) (htext : IsLine setting text)
    (hblanks : IsBlanks blanks) (hending : IsLineEnd ending) (htail : EndsLine tail rest)
    (hdistinct : ((settings ++ setting.toList).map Setting.key).Nodup) :
    ∃ entries', Records (settings ++ setting.toList) entries' ∧
      readFrom ⟨entries, none⟩ (blanks ++ (text ++ (ending ++ tail))) =
        readFrom ⟨entries', none⟩ rest := by
  have hend := endLine_append hending htail
  cases htext with
  | blank =>
      refine ⟨entries, ?_, readFrom_blank _ hblanks hend⟩
      rwa [Option.toList_none, List.append_nil]
  | @assignment setting key between before value hkey hbetween hbefore hvalue =>
      obtain ⟨place, span, hread⟩ :=
        takes_assignment hkey hbetween hbefore hvalue (htail.endsValue hending)
      have hnew : setting.key ∉ entries.names := by
        rw [hrecords.names_eq]
        rw [Option.toList_some, List.map_append, List.nodup_append] at hdistinct
        exact fun hmem => hdistinct.2.2 _ hmem _ List.mem_cons_self rfl
      refine ⟨entries ++ [(⟨setting.key, place⟩, .scalar (scalarOf setting) span)], ?_, ?_⟩
      · exact List.rel_append hrecords (.cons ⟨rfl, ofEntry_scalarOf _ _ _⟩ .nil)
      · simp only [List.append_assoc, List.cons_append]
        obtain ⟨first, more, hbegins, -⟩ := hkey.exists_cons
        have hstatement := takes_statement hkey hread hend
        have hskip := (skipBlank_append hblanks).trans (hkey.skipBlank_append
          (between ++ '=' :: (before ++ (value ++ (ending ++ tail)))))
        rw [hbegins, List.cons_append] at hstatement hskip
        rw [hbegins]
        exact readFrom_next hskip hstatement (Draft.add_assignment hnew)

/-- **Whole lines** leave the entries of their settings. -/
theorem readFrom_lines (hrecords : Records settings entries) (hlines : AreLines added lines)
    (hdistinct : ((settings ++ added).map Setting.key).Nodup) (rest : List Char) :
    ∃ entries', Records (settings ++ added) entries' ∧
      readFrom ⟨entries, none⟩ (lines ++ rest) = readFrom ⟨entries', none⟩ rest := by
  induction hlines generalizing settings entries with
  | nil => exact ⟨entries, (List.append_nil settings).symm ▸ hrecords, rfl⟩
  | next hblanks htext hending hline hrest ih =>
      rw [← List.append_assoc] at hdistinct ⊢
      have hdistinct' := hdistinct
      rw [List.map_append] at hdistinct'
      obtain ⟨entries', hrecords', hfirst⟩ := readFrom_line hrecords htext hblanks hending
        (.inl ⟨_, hline, rfl⟩) (List.nodup_append.1 hdistinct').1
      obtain ⟨entries'', hrecords'', hlater⟩ := ih hrecords' hdistinct
      refine ⟨entries'', hrecords'', ?_⟩
      simp only [List.append_assoc]
      exact hfirst.trans hlater

/-! ### The byte order mark -/

/-- Characters that do not begin with a byte order mark. -/
def Unmarked (chars : List Char) : Prop := chars.head? ≠ some '\ufeff'

/-- They may be missing altogether. -/
theorem unmarked_nil : Unmarked [] := fun hmark => Option.some_ne_none _ hmark.symm

/-- They may begin with any other character. -/
theorem unmarked_cons {first : Char} (hfirst : first ≠ '\ufeff') (rest : List Char) :
    Unmarked (first :: rest) := fun hmark => hfirst (Option.some.inj hmark)

/-- They may stand one behind the other. -/
theorem Unmarked.append {front : List Char} (hfront : Unmarked front) (hrest : Unmarked rest) :
    Unmarked (front ++ rest) := by
  cases front with
  | nil => exact hrest
  | cons first front => exact hfront

/-- Blanks do not begin with the mark. -/
theorem unmarked_of_isBlanks (hblanks : IsBlanks blanks) : Unmarked blanks := by
  cases blanks with
  | nil => exact unmarked_nil
  | cons blank blanks =>
      rcases hblanks blank List.mem_cons_self with rfl | rfl <;> exact unmarked_cons (by decide) _

/-- Keys do not. -/
theorem unmarked_of_isKey (hkey : IsKey name key) : Unmarked key := by
  obtain ⟨first, more, rfl, hfirst⟩ := hkey.exists_cons
  exact unmarked_cons (by rintro rfl; exact hfirst (by decide)) more

/-- Lines do not. -/
theorem unmarked_of_isLine (htext : IsLine setting text) : Unmarked text := by
  cases htext with
  | blank => exact unmarked_nil
  | assignment hkey hblanks _ _ =>
      exact (unmarked_of_isKey hkey).append ((unmarked_of_isBlanks hblanks).append
        (unmarked_cons (by decide) _))

/-- The ends of lines do not. -/
theorem unmarked_of_isLineEnd (hending : IsLineEnd ending) : Unmarked ending := by
  obtain ⟨blanks, comment, hblanks, hcomment, rfl⟩ := hending
  refine (unmarked_of_isBlanks hblanks).append ?_
  cases hcomment with
  | none => exact unmarked_nil
  | some _ => exact unmarked_cons (by decide) _

/-- Whole lines do not. -/
theorem unmarked_of_areLines (hlines : AreLines settings lines) : Unmarked lines := by
  induction hlines with
  | nil => exact unmarked_nil
  | next hblanks htext hending hline _ ih =>
      refine (unmarked_of_isBlanks hblanks).append ((unmarked_of_isLine htext).append
        ((unmarked_of_isLineEnd hending).append (.append ?_ ih)))
      cases hline <;> exact unmarked_cons (by decide) _

/-- A document is read behind its byte order mark, if it has one. -/
theorem read_append (hmark : mark = [] ∨ mark = ['\ufeff']) (htext : Unmarked text) :
    Toml.read (mark ++ text) = readFrom ⟨[], none⟩ text := by
  rcases hmark with rfl | rfl
  · rw [Toml.read, List.nil_append, if_neg htext]
  · exact congrArg (readFrom ⟨[], none⟩) (if_pos rfl)

end Setting

namespace Config

open Setting

variable {text : List Char} {settings : List Setting}

/-! ### Documents -/

/-- **The settings of a document are read**, in their order. -/
theorem settings_of_isDocument (hdocument : IsDocument settings text)
    (hdistinct : (settings.map Setting.key).Nodup) : Config.settings text = .ok settings := by
  cases hdocument with
  | @intro setting settings mark lines blanks text ending hmark hlines hblanks htext hending =>
      have hdistinct' := hdistinct
      rw [List.map_append] at hdistinct'
      obtain ⟨entries, hrecords, hfirst⟩ := readFrom_lines .nil hlines
        (List.nodup_append.1 hdistinct').1 (blanks ++ (text ++ ending))
      obtain ⟨entries', hrecords', hlast⟩ :=
        readFrom_line hrecords htext hblanks hending (.inr ⟨rfl, rfl⟩) hdistinct
      rw [List.append_nil] at hlast
      have hunmarked : Unmarked (lines ++ (blanks ++ (text ++ ending))) :=
        (unmarked_of_areLines hlines).append ((unmarked_of_isBlanks hblanks).append
          ((unmarked_of_isLine htext).append (unmarked_of_isLineEnd hending)))
      have hread : Toml.read (mark ++ (lines ++ (blanks ++ (text ++ ending)))) = .ok entries' := by
        rw [read_append hmark hunmarked, hfirst, hlast, readFrom_end rfl]
      rw [Config.settings, hread]
      simp only [hrecords'.ofEntries_eq]
      rfl

/-- **A document that assigns another key is refused**, whatever stands behind that key. -/
theorem parse_of_assignsOther (origin : String) {document : String}
    (hother : AssignsOther settings document.toList)
    (hdistinct : (settings.map Setting.key).Nodup) :
    ∃ error, Config.parse origin document = .error (.parse origin document error) := by
  have hsettings : ∃ error, Config.settings document.toList = .error error := by
    generalize document.toList = text at hother
    cases hother with
    | @intro name mark lines blanks key blanks' rest next hmark hlines hblanks hkey hname hblanks'
        hnext =>
        have hunmarked : Unmarked (lines ++ (blanks ++ (key ++ (blanks' ++ next :: rest)))) := by
          refine (unmarked_of_areLines hlines).append ((unmarked_of_isBlanks hblanks).append
            ((unmarked_of_isKey hkey).append ((unmarked_of_isBlanks hblanks').append ?_)))
          rcases hnext with rfl | rfl <;> exact unmarked_cons (by decide) _
        obtain ⟨entries, hrecords, hfirst⟩ := readFrom_lines .nil hlines hdistinct
          (blanks ++ (key ++ (blanks' ++ next :: rest)))
        rw [Config.settings, read_append hmark hunmarked, hfirst]
        -- Either the rest breaks the grammar, or the key is there in the end.
        cases hread : readFrom ⟨entries, none⟩ (blanks ++ (key ++ (blanks' ++ next :: rest))) with
        | error fault => exact ⟨_, rfl⟩
        | ok entries' =>
            have hmem := mem_names_readFrom hkey hblanks' hblanks hnext hread
            simp only
            cases hentries : Setting.ofEntries entries' with
            | error mistake => exact ⟨_, rfl⟩
            | ok settings =>
                obtain ⟨setting, hsetting⟩ := exists_key_of_ofEntries hentries hmem
                exact absurd hsetting (hname setting)
  obtain ⟨error, herror⟩ := hsettings
  exact ⟨error, by rw [Config.parse, herror]⟩

end Config

end CallForest
