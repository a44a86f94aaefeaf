import CallForest.Log.Filter
import Mathlib.Data.List.Induction
import Mathlib.Data.String.Basic

/-! # Which level a filter has

However often a target is written, what is written last about it counts. A filter keeps one
directive for each target, with longer targets in front, so the first of them that begins a target
is the longest one that does. A run that is to tell more has one more directive, for all targets,
and that replaces what was written for them: it can raise their level, and it can lower it.

* `Log.lastSaid?`: what some directives say last about a target.
* `Log.Decides`: which level directives have for a target.
* `Log.Filter.Says`, `Log.Filter.Says.decides_levelFor`: a filter has the level of its directives.
* `Log.written?`, `Log.levelFor_filter?`: when the filter of a run that is to tell more has no lower
  level. -/

namespace CallForest

namespace Log

variable {directives : List Directive} {directive other third : Directive} {filter : Filter}
  {target start : String} {level : Level}

/-! ### What directives say -/

/-- What some directives **say last** about the targets that begin with a text, or about all
targets. -/
def lastSaid? (directives : List Directive) (start : Option String) : Option Level :=
  (directives.reverse.find? (·.target = start)).map (·.level)

/-- Whether a target begins with a text. -/
def Begins (start target : String) : Prop := start.toList <+: target.toList

/-- No text that is written in front of a level begins a target. -/
def NoneBegins (directives : List Directive) (target : String) : Prop :=
  ∀ start, some start ∈ directives.map (·.target) → ¬ Begins start target

/-- **Which level directives have for a target**: that of the longest text that begins the target,
else that for all targets, else none at all. What is written last about a text counts. -/
inductive Decides (directives : List Directive) (target : String) : Level → Prop where
  /-- The longest text that begins the target decides. -/
  | longest {start : String} {level : Level}
      (hsaid : lastSaid? directives (some start) = some level) (hbegins : Begins start target)
      (hlongest : ∀ other, some other ∈ directives.map (·.target) → Begins other target →
        other.toList.length ≤ start.toList.length) :
      Decides directives target level
  /-- What is said about all targets decides. -/
  | bare {level : Level} (hnone : NoneBegins directives target)
      (hsaid : lastSaid? directives none = some level) : Decides directives target level
  /-- Nothing decides. -/
  | off (hnone : NoneBegins directives target) (hsaid : lastSaid? directives none = none) :
      Decides directives target .off

/-- One more directive says something about its own target, and nothing about others. -/
theorem lastSaid?_concat (directives : List Directive) (directive : Directive)
    (start : Option String) :
    lastSaid? (directives ++ [directive]) start =
      if directive.target = start then some directive.level else lastSaid? directives start := by
  rw [lastSaid?, List.reverse_append, List.reverse_singleton, List.singleton_append,
    List.find?_cons]
  by_cases hsame : directive.target = start
  · simp [hsame]
  · simp [hsame, lastSaid?]

/-- Something is said about the targets that are written. -/
theorem isSome_lastSaid?_iff {start : Option String} :
    (lastSaid? directives start).isSome ↔ start ∈ directives.map (·.target) := by
  rw [lastSaid?, Option.isSome_map, List.find?_isSome]
  simp

/-- Texts of one length that begin a target are one text. -/
theorem Begins.eq_of_length_eq {other : String} (hstart : Begins start target)
    (hother : Begins other target) (hlength : start.toList.length = other.toList.length) :
    start = other :=
  String.toList_inj.1 (List.prefix_of_prefix_length_le hstart hother hlength.le |>.eq_of_length
    hlength)

/-- Of the texts that begin a target, one with no more bytes has no more characters. -/
theorem Begins.length_le_of_size_le {other : String} (hstart : Begins start target)
    (hother : Begins other target) (hsize : other.utf8ByteSize ≤ start.utf8ByteSize) :
    other.toList.length ≤ start.toList.length := by
  rcases List.prefix_or_prefix_of_prefix hother hstart with hshorter | ⟨rest, hrest⟩
  · exact hshorter.length_le
  · have hsplit : other = start ++ String.ofList rest := by
      rw [← String.toList_inj, String.toList_append, String.toList_ofList, hrest]
    rw [hsplit, String.utf8ByteSize_append] at hsize
    have hnothing : String.ofList rest = "" := String.utf8ByteSize_eq_zero_iff.1 (by omega)
    rw [hsplit, hnothing, String.append_empty]

/-- For a target that begins with no text that is written, the level is that for all targets. -/
theorem Decides.eq_getD (hlevel : Decides directives target level)
    (hnone : NoneBegins directives target) : level = (lastSaid? directives none).getD .off := by
  cases hlevel with
  | @longest start _ hsaid hbegins _ =>
      exact absurd hbegins (hnone start (isSome_lastSaid?_iff.1 (Option.isSome_of_eq_some hsaid)))
  | bare _ hsaid => rw [hsaid, Option.getD_some]
  | off _ hsaid => rw [hsaid, Option.getD_none]

/-- Directives have one level for a target. -/
theorem Decides.unique {level' : Level} (hlevel : Decides directives target level)
    (hlevel' : Decides directives target level') : level = level' := by
  by_cases hnone : NoneBegins directives target
  · rw [hlevel.eq_getD hnone, hlevel'.eq_getD hnone]
  · cases hlevel with
    | bare hnone' _ => exact absurd hnone' hnone
    | off hnone' _ => exact absurd hnone' hnone
    | @longest start _ hsaid hbegins hlongest =>
        cases hlevel' with
        | bare hnone' _ => exact absurd hnone' hnone
        | off hnone' _ => exact absurd hnone' hnone
        | @longest other _ hsaid' hbegins' hlongest' =>
            have hstart := isSome_lastSaid?_iff.1 (Option.isSome_of_eq_some hsaid)
            have hother := isSome_lastSaid?_iff.1 (Option.isSome_of_eq_some hsaid')
            have hlength :=
              (hlongest' start hstart hbegins).antisymm (hlongest other hother hbegins')
            rw [hbegins.eq_of_length_eq hbegins' hlength, hsaid'] at hsaid
            exact (Option.some.inj hsaid).symm

/-! ### The order of a filter -/

namespace Directive

/-- A directive in front of another one is for another target. -/
theorem target_ne_of_precedes (hbefore : directive.precedes other) :
    directive.target ≠ other.target := by
  intro hsame
  rw [precedes, hsame] at hbefore
  cases htarget : other.target with
  | none => simp [htarget] at hbefore
  | some start => simp [htarget] at hbefore

/-- Of two directives for different targets one is in front of the other. -/
theorem precedes_or_precedes (hne : directive.target ≠ other.target) :
    directive.precedes other ∨ other.precedes directive := by
  cases htarget : directive.target with
  | none =>
      cases hother : other.target with
      | none => exact absurd (htarget.trans hother.symm) hne
      | some against => exact .inr (by simp [precedes, htarget, hother])
  | some start =>
      cases hother : other.target with
      | none => exact .inl (by simp [precedes, htarget, hother])
      | some against =>
          have hdiffer : start ≠ against := by
            rintro rfl
            exact hne (htarget.trans hother.symm)
          simp only [precedes, htarget, hother, Bool.or_eq_true, Bool.and_eq_true,
            decide_eq_true_eq]
          rcases lt_trichotomy against.utf8ByteSize start.utf8ByteSize with hless | hsame | hless
          · exact .inl (.inl hless)
          · rcases lt_or_gt_of_ne hdiffer with hlt | hlt
            · exact .inr (.inr ⟨hsame.symm, hlt⟩)
            · exact .inl (.inr ⟨hsame, hlt⟩)
          · exact .inr (.inl hless)

/-- A directive in front of one for some text is for a text that is no shorter. -/
theorem exists_size_le_of_precedes {against : String} (hbefore : directive.precedes other)
    (hother : other.target = some against) :
    ∃ start, directive.target = some start ∧ against.utf8ByteSize ≤ start.utf8ByteSize := by
  cases htarget : directive.target with
  | none => simp [precedes, htarget] at hbefore
  | some start =>
      simp only [precedes, htarget, hother, Bool.or_eq_true, Bool.and_eq_true,
        decide_eq_true_eq] at hbefore
      exact ⟨start, rfl, by omega⟩

/-- A directive for some text covers the targets that begin with it. -/
theorem covers_iff_begins (htarget : directive.target = some start) :
    directive.covers target ↔ Begins start target := by
  rw [covers, htarget]
  exact List.isPrefixOf_iff_prefix

/-- A directive for all targets covers every one. -/
theorem covers_of_target_eq_none (htarget : directive.target = none) :
    directive.covers target := by
  rw [covers, htarget]

/-- What is in front of a directive is in front of all behind that. -/
theorem precedes_trans (hbefore : directive.precedes other) (hnext : other.precedes third) :
    directive.precedes third := by
  cases htarget : directive.target with
  | none => simp [precedes, htarget] at hbefore
  | some start =>
      cases hthird : third.target with
      | none => simp [precedes, htarget, hthird]
      | some last =>
          cases hother : other.target with
          | none => simp [precedes, hother] at hnext
          | some against =>
              simp only [precedes, htarget, hthird, hother, Bool.or_eq_true, Bool.and_eq_true,
                decide_eq_true_eq] at hbefore hnext ⊢
              rcases hbefore with hbefore | ⟨hsame, hbefore⟩
              · rcases hnext with hnext | ⟨hsame', -⟩
                · exact .inl (by omega)
                · exact .inl (by omega)
              · rcases hnext with hnext | ⟨hsame', hnext⟩
                · exact .inl (by omega)
                · exact .inr ⟨by omega, lt_trans hnext hbefore⟩

end Directive

namespace Filter

/-- A filter **in order**: directives that decide first are in front. -/
def Ordered (filter : Filter) : Prop := filter.Pairwise fun directive other =>
  directive.precedes other

/-- What a directive is put in place of, and what stays. -/
theorem mem_add (hordered : filter.Ordered) :
    other ∈ filter.add directive ↔
      other = directive ∨ other ∈ filter ∧ other.target ≠ directive.target := by
  induction filter with
  | nil => simp [add]
  | cons first rest ih =>
      obtain ⟨hfirst, hrest⟩ := List.pairwise_cons.1 hordered
      rw [add]
      by_cases hsame : first.target = directive.target
      · -- The directives behind the one that is replaced are for other targets.
        have hothers : ∀ other ∈ rest, other.target ≠ directive.target := by
          intro other hother
          rw [← hsame]
          exact (Directive.target_ne_of_precedes (hfirst other hother)).symm
        rw [if_pos hsame, List.mem_cons, List.mem_cons]
        constructor
        · rintro (hother | hother)
          · exact .inl hother
          · exact .inr ⟨.inr hother, hothers other hother⟩
        · rintro (hother | ⟨rfl | hother, hne⟩)
          · exact .inl hother
          · exact absurd hsame hne
          · exact .inr hother
      · rw [if_neg hsame]
        by_cases hbefore : directive.precedes first
        · have hothers : ∀ other ∈ first :: rest, other.target ≠ directive.target := by
            intro other hother
            rcases List.mem_cons.1 hother with rfl | hother
            · exact hsame
            · exact (Directive.target_ne_of_precedes
                (Directive.precedes_trans hbefore (hfirst other hother))).symm
          rw [if_pos hbefore, List.mem_cons]
          exact or_congr_right ⟨fun hother => ⟨hother, hothers other hother⟩, And.left⟩
        · rw [if_neg hbefore, List.mem_cons, ih hrest, List.mem_cons]
          constructor
          · rintro (rfl | hother | ⟨hother, hne⟩)
            · exact .inr ⟨.inl rfl, hsame⟩
            · exact .inl hother
            · exact .inr ⟨.inr hother, hne⟩
          · rintro (hother | ⟨rfl | hother, hne⟩)
            · exact .inr (.inl hother)
            · exact .inl rfl
            · exact .inr (.inr ⟨hother, hne⟩)

/-- A directive is put **in order**. -/
theorem Ordered.add (hordered : filter.Ordered) (directive : Directive) :
    (filter.add directive).Ordered := by
  induction filter with
  | nil => exact List.pairwise_singleton _ _
  | cons first rest ih =>
      obtain ⟨hfirst, hrest⟩ := List.pairwise_cons.1 hordered
      rw [Filter.add]
      by_cases hsame : first.target = directive.target
      · rw [if_pos hsame]
        refine List.pairwise_cons.2 ⟨fun other hother => ?_, hrest⟩
        have hbefore := hfirst other hother
        rwa [Directive.precedes, hsame] at hbefore
      · rw [if_neg hsame]
        by_cases hbefore : directive.precedes first
        · rw [if_pos hbefore]
          refine List.pairwise_cons.2 ⟨fun other hother => ?_, hordered⟩
          rcases List.mem_cons.1 hother with rfl | hother
          · exact hbefore
          · exact Directive.precedes_trans hbefore (hfirst other hother)
        · rw [if_neg hbefore]
          refine List.pairwise_cons.2 ⟨fun other hother => ?_, ih hrest⟩
          rcases (mem_add hrest).1 hother with rfl | ⟨hother, -⟩
          · exact (Directive.precedes_or_precedes hsame).resolve_right hbefore
          · exact hfirst other hother

/-- A filter **says what directives say** if it is in order, and has what they say last about every
target. -/
structure Says (directives : List Directive) (filter : Filter) : Prop where
  /-- The filter is in order. -/
  ordered : filter.Ordered
  /-- It has what is said last. -/
  mem_iff : ∀ directive, directive ∈ filter ↔
    lastSaid? directives directive.target = some directive.level

/-- With one more directive a filter says what is said with one more. -/
theorem Says.add (hfilter : filter.Says directives) (directive : Directive) :
    (filter.add directive).Says (directives ++ [directive]) where
  ordered := hfilter.ordered.add directive
  mem_iff other := by
    rw [mem_add hfilter.ordered, hfilter.mem_iff, lastSaid?_concat]
    by_cases hsame : directive.target = other.target
    · rw [if_pos hsame, Option.some_inj]
      constructor
      · rintro (rfl | ⟨-, hne⟩)
        · rfl
        · exact absurd hsame.symm hne
      · intro hlevel
        obtain ⟨target, level⟩ := directive
        obtain ⟨target', level'⟩ := other
        exact .inl (by rw [show target = target' from hsame, show level = level' from hlevel])
    · rw [if_neg hsame]
      constructor
      · rintro (rfl | ⟨hother, -⟩)
        · exact absurd rfl hsame
        · exact hother
      · exact fun hother => .inr ⟨hother, fun hsame' => hsame hsame'.symm⟩

/-- **The filter of some directives says what they say.** -/
theorem says_ofDirectives (directives : List Directive) :
    (ofDirectives directives).Says directives := by
  induction directives using List.reverseRecOn with
  | nil => exact ⟨.nil, fun directive => by simp [ofDirectives, lastSaid?]⟩
  | append_singleton directives directive ih =>
      rw [ofDirectives, List.foldl_append]
      exact ih.add directive

/-! ### The level of a filter -/

/-- What covers a target is the directive that decides, or is behind it. -/
theorem Ordered.eq_or_precedes_of_find? (hordered : filter.Ordered)
    (hfind : filter.find? (·.covers target) = some directive) (hother : other ∈ filter)
    (hcovers : other.covers target) : other = directive ∨ directive.precedes other := by
  obtain ⟨-, before, after, hfilter, hbefore⟩ := List.find?_eq_some_iff_append.1 hfind
  rw [hfilter] at hordered hother
  obtain ⟨-, hordered, -⟩ := List.pairwise_append.1 hordered
  rcases List.mem_append.1 hother with hother | hother
  · exact absurd hcovers (by simpa using hbefore other hother)
  · rcases List.mem_cons.1 hother with hother | hother
    · exact .inl hother
    · exact .inr ((List.pairwise_cons.1 hordered).1 other hother)

/-- A filter has a directive for every target that is written. -/
theorem Says.exists_mem (hfilter : filter.Says directives) {start : Option String}
    (hstart : start ∈ directives.map (·.target)) :
    ∃ directive ∈ filter, directive.target = start := by
  obtain ⟨level, hlevel⟩ := Option.isSome_iff_exists.1 (isSome_lastSaid?_iff.2 hstart)
  exact ⟨⟨start, level⟩, (hfilter.mem_iff _).2 hlevel, rfl⟩

/-- **A filter has the level of its directives.** -/
theorem Says.decides_levelFor (hfilter : filter.Says directives) (target : String) :
    Decides directives target (filter.levelFor target) := by
  rw [levelFor]
  cases hfind : filter.find? (·.covers target) with
  | none =>
      rw [List.find?_eq_none] at hfind
      refine .off (fun start hstart hbegins => ?_) (Option.not_isSome_iff_eq_none.1 fun hbare => ?_)
      · obtain ⟨directive, hdirective, htarget⟩ := hfilter.exists_mem hstart
        exact hfind directive hdirective ((Directive.covers_iff_begins htarget).2 hbegins)
      · obtain ⟨directive, hdirective, htarget⟩ :=
          hfilter.exists_mem (isSome_lastSaid?_iff.1 hbare)
        exact hfind directive hdirective (Directive.covers_of_target_eq_none htarget)
  | some directive =>
      have hcovers : directive.covers target := by simpa using List.find?_some hfind
      have hsaid := (hfilter.mem_iff directive).1 (List.mem_of_find?_eq_some hfind)
      -- What begins the target is what the directive is for, or has a directive behind it.
      have hfirst : ∀ other, some other ∈ directives.map (·.target) → Begins other target →
          directive.target = some other ∨
            ∃ behind, directive.precedes behind ∧ behind.target = some other := by
        intro other hother hbegins
        obtain ⟨behind, hbehind, htarget⟩ := hfilter.exists_mem hother
        rcases hfilter.ordered.eq_or_precedes_of_find? hfind hbehind
          ((Directive.covers_iff_begins htarget).2 hbegins) with rfl | hprecedes
        · exact .inl htarget
        · exact .inr ⟨behind, hprecedes, htarget⟩
      cases htarget : directive.target with
      | none =>
          rw [htarget] at hsaid
          refine .bare (fun other hother hbegins => ?_) hsaid
          rcases hfirst other hother hbegins with hsame | ⟨behind, hprecedes, hbehind⟩
          · rw [htarget] at hsame
            cases hsame
          · obtain ⟨start, hstart, -⟩ := Directive.exists_size_le_of_precedes hprecedes hbehind
            rw [htarget] at hstart
            cases hstart
      | some start =>
          rw [htarget] at hsaid
          have hbegins := (Directive.covers_iff_begins htarget).1 hcovers
          refine .longest hsaid hbegins fun other hother hbegins' => ?_
          rcases hfirst other hother hbegins' with hsame | ⟨behind, hprecedes, hbehind⟩
          · rw [htarget, Option.some_inj] at hsame
            rw [hsame]
          · obtain ⟨start', hstart', hsize⟩ :=
              Directive.exists_size_le_of_precedes hprecedes hbehind
            rw [htarget, Option.some_inj] at hstart'
            exact hbegins.length_le_of_size_le hbegins' (hstart' ▸ hsize)

end Filter

/-! ### The filter of a run -/

/-- The **directives that are asked for**, or that for the standard level if there are none or they
mean nothing. There are none at all if a character would be cut. -/
def written? : Option String → Option (List Directive)
  | none => some Filter.standard
  | some text =>
    if Blank.isBlank text then some Filter.standard
    else
      match ((Filter.parts text.toList).filter (· ≠ [])).mapM Directive.parse with
      | .ok directives => some directives
      | .error .meaningless => some Filter.standard
      | .error .cutCharacter => none

/-- The filter that is asked for is that of the directives. -/
theorem chosen?_eq (asked : Option String) :
    chosen? asked = (written? asked).map Filter.ofDirectives := by
  cases asked with
  | none => rfl
  | some text =>
      rw [chosen?, written?, Filter.parse]
      by_cases hblank : Blank.isBlank text
      · rw [if_pos hblank, if_pos hblank]
        rfl
      · rw [if_neg hblank, if_neg hblank]
        cases ((Filter.parts text.toList).filter (· ≠ [])).mapM Directive.parse with
        | ok directives => rfl
        | error misreading => cases misreading <;> rfl

/-- The directives of a run that is **to tell more**: what helps to find mistakes is asked for last,
for all targets. -/
def tellMore (directives : List Directive) : List Directive := directives ++ [⟨none, .debug⟩]

/-- The filter of a run is that of its directives. -/
theorem filter?_eq (asked : Option String) (verbose : Bool) :
    filter? asked verbose = (written? asked).map fun directives =>
      Filter.ofDirectives (if verbose then tellMore directives else directives) := by
  rw [filter?, chosen?_eq, Option.map_map]
  congr 1
  funext directives
  cases verbose with
  | false => rfl
  | true =>
      show (Filter.ofDirectives directives).add ⟨none, .debug⟩ =
        Filter.ofDirectives (directives ++ [⟨none, .debug⟩])
      rw [Filter.ofDirectives, Filter.ofDirectives, List.foldl_append]
      rfl

/-- To tell more adds no text that targets could begin with. -/
theorem some_mem_tellMore_iff :
    some start ∈ (tellMore directives).map (·.target) ↔ some start ∈ directives.map (·.target) := by
  simp [tellMore]

/-- **What telling more changes**: nothing for a target that begins with some text that is written,
and for any other one the level becomes that for all targets. -/
theorem Decides.tellMore (hlevel : Decides directives target level) :
    ¬ NoneBegins directives target ∧ Decides (tellMore directives) target level ∨
      NoneBegins directives target ∧ Decides (tellMore directives) target .debug := by
  by_cases hnone : NoneBegins directives target
  · have hbare : lastSaid? (Log.tellMore directives) none = some .debug := by
      rw [Log.tellMore, lastSaid?_concat, if_pos rfl]
    refine .inr ⟨hnone, .bare (fun start hstart => ?_) hbare⟩
    exact hnone start (some_mem_tellMore_iff.1 hstart)
  · cases hlevel with
    | @longest start _ hsaid hbegins hlongest =>
        have hsaid' : lastSaid? (Log.tellMore directives) (some start) = some level := by
          rw [Log.tellMore, lastSaid?_concat, if_neg nofun, hsaid]
        refine .inl ⟨hnone, .longest hsaid' hbegins fun other hother => ?_⟩
        exact hlongest other (some_mem_tellMore_iff.1 hother)
    | bare hnone' _ => exact absurd hnone' hnone
    | off hnone' _ => exact absurd hnone' hnone

/-- **When telling more does not lower a level**: unless everything is logged, and only because that
is asked for all targets. -/
theorem Decides.rank_le_iff {level' : Level} (hlevel : Decides directives target level)
    (hlevel' : Decides (Log.tellMore directives) target level') :
    level.rank ≤ level'.rank ↔
      ¬ (NoneBegins directives target ∧ lastSaid? directives none = some .trace) := by
  rcases hlevel.tellMore with ⟨hnone, hsame⟩ | ⟨hnone, hdebug⟩
  · rw [hlevel'.unique hsame]
    exact ⟨fun _ hbare => hnone hbare.1, fun _ => le_rfl⟩
  · rw [hlevel'.unique hdebug, hlevel.eq_getD hnone]
    -- Only the level that logs everything is above the one that helps to find mistakes.
    cases hsaid : lastSaid? directives none with
    | none => simp [Level.rank]
    | some said => cases said <;> simp [Level.rank, hnone]

/-- **When a run that is to tell more has no lower level.** Whatever is asked for, both runs have a
filter or neither has, and the level of either for a target is that of its directives. Telling more
lowers it for the targets for which everything is logged only because that is asked for all targets,
and for no others. -/
theorem levelFor_filter? (asked : Option String) :
    (written? asked = none ∧ filter? asked false = none ∧ filter? asked true = none) ∨
      ∃ (directives : List Directive) (quiet loud : Filter),
        written? asked = some directives ∧ filter? asked false = some quiet ∧
        filter? asked true = some loud ∧
        ∀ target,
          Decides directives target (quiet.levelFor target) ∧
          Decides (tellMore directives) target (loud.levelFor target) ∧
          ((quiet.levelFor target).rank ≤ (loud.levelFor target).rank ↔
            ¬ (NoneBegins directives target ∧ lastSaid? directives none = some .trace)) := by
  rw [filter?_eq, filter?_eq]
  cases hwritten : written? asked with
  | none => exact .inl ⟨rfl, rfl, rfl⟩
  | some directives =>
      refine .inr ⟨directives, _, _, rfl, rfl, rfl, fun target => ?_⟩
      have hquiet := (Filter.says_ofDirectives directives).decides_levelFor target
      have hloud := (Filter.says_ofDirectives (tellMore directives)).decides_levelFor target
      exact ⟨hquiet, hloud, hquiet.rank_le_iff hloud⟩

/-- Where everything is asked for, telling more lowers the level of every target. -/
theorem rank_levelFor_filter?_trace_lt :
    ∃ quiet loud : Filter, filter? (some "trace") false = some quiet ∧
      filter? (some "trace") true = some loud ∧
      (loud.levelFor "purity_viz").rank < (quiet.levelFor "purity_viz").rank :=
  ⟨[⟨none, .trace⟩], [⟨none, .debug⟩], by decide +kernel, by decide +kernel, by decide +kernel⟩

end Log

end CallForest
