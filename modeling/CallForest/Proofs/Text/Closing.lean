import CallForest.Proofs.Text.Escape
import Mathlib.Algebra.Ring.Parity
import Mathlib.Data.List.DropRight
import Mathlib.Data.List.Induction

/-! # Where a quoted string closes

A reader that goes from left to right lets every backslash take the next character with it. The
quote at which it stops can also be found by counting: backslashes in front of a quote take each
other two by two, and one that is left over takes the quote. So a quoted string closes at the first
quote behind an even number of backslashes. Of an escaped text that is the quote behind its end.

* `Label.trailingBackslashes`: how many backslashes a text ends in.
* `Label.Quotable`: a text that can stand between quotes, by the number of backslashes.
* `Label.closing?_eq_some_iff`: reading and counting find the same quote.
* `Label.escape_quotable_and_read_back`: what escaping does to any text. -/

namespace CallForest

namespace Label

variable {character taken : Char} {inside body rest : List Char}

/-! ### Counting backslashes -/

/-- How many backslashes a text ends in. -/
def trailingBackslashes (text : List Char) : Nat := (text.rtakeWhile (· = '\\')).length

/-- One more backslash at the end counts, and any other character ends the count. -/
theorem trailingBackslashes_concat (text : List Char) (character : Char) :
    trailingBackslashes (text ++ [character]) =
      if character = '\\' then trailingBackslashes text + 1 else 0 := by
  rw [trailingBackslashes, List.rtakeWhile_concat]
  split_ifs <;> simp_all [trailingBackslashes]

/-- A character in front that is no backslash does not count. -/
theorem trailingBackslashes_cons (hslash : character ≠ '\\') (text : List Char) :
    trailingBackslashes (character :: text) = trailingBackslashes text := by
  induction text using List.reverseRecOn with
  | nil => exact (trailingBackslashes_concat [] character).trans (if_neg hslash)
  | append_singleton text last ih =>
      rw [← List.cons_append, trailingBackslashes_concat, trailingBackslashes_concat, ih]

/-- A backslash in front and the character that it takes leave the parity alone. -/
theorem even_trailingBackslashes_pair (taken : Char) (text : List Char) :
    Even (trailingBackslashes ('\\' :: taken :: text)) ↔ Even (trailingBackslashes text) := by
  induction text using List.reverseRecOn with
  | nil =>
      have hpair : trailingBackslashes ['\\', taken] = if taken = '\\' then 2 else 0 :=
        trailingBackslashes_concat ['\\'] taken
      rw [hpair]
      split_ifs <;> decide
  | append_singleton text last ih =>
      rw [← List.cons_append, ← List.cons_append, trailingBackslashes_concat,
        trailingBackslashes_concat]
      split_ifs
      · rw [Nat.even_add_one, Nat.even_add_one, ih]
      · rfl

/-! ### Texts between quotes -/

/-- A text **can stand between quotes**: none of its own quotes closes the string, and the quote
behind it does. -/
structure Quotable (body : List Char) : Prop where
  /-- Behind an odd number of backslashes a quote is taken by the last of them. -/
  odd_of_quote : ∀ before after, body = before ++ '"' :: after → Odd (trailingBackslashes before)
  /-- An even number of backslashes take each other. -/
  even : Even (trailingBackslashes body)

/-- The empty text can stand between quotes. -/
theorem Quotable.nil : Quotable [] := by
  refine ⟨fun before after hsplit => ?_, Even.zero⟩
  simp at hsplit

/-- A quote in front would close the string. -/
theorem not_quotable_quote_cons : ¬ Quotable ('"' :: body) := fun hbody =>
  absurd (hbody.odd_of_quote [] body rfl) (by decide)

/-- A single backslash would take the quote behind it. -/
theorem not_quotable_backslash : ¬ Quotable ['\\'] := fun hbody =>
  absurd hbody.even (by decide)

/-- A backslash may stand in front with any character that it takes. -/
theorem quotable_pair_iff : Quotable ('\\' :: taken :: body) ↔ Quotable body := by
  constructor
  · rintro ⟨hodd, heven⟩
    refine ⟨fun before after hsplit => ?_, (even_trailingBackslashes_pair taken body).1 heven⟩
    have hbefore := hodd ('\\' :: taken :: before) after (by rw [hsplit]; rfl)
    rwa [← Nat.not_even_iff_odd, even_trailingBackslashes_pair, Nat.not_even_iff_odd] at hbefore
  · rintro ⟨hodd, heven⟩
    refine ⟨fun before after hsplit => ?_, (even_trailingBackslashes_pair taken body).2 heven⟩
    -- The quote is the one that was taken, or one behind it.
    obtain ⟨-, hquote⟩ | ⟨front, rfl, hfront⟩ := List.cons_eq_append_iff.1 hsplit
    · simp at hquote
    obtain ⟨rfl, -⟩ | ⟨front, rfl, hbody⟩ := List.cons_eq_append_iff.1 hfront
    · decide
    rw [← Nat.not_even_iff_odd, even_trailingBackslashes_pair, Nat.not_even_iff_odd]
    exact hodd front after hbody

/-- Any other character may stand in front. -/
theorem quotable_cons_iff (hslash : character ≠ '\\') (hquote : character ≠ '"') :
    Quotable (character :: body) ↔ Quotable body := by
  constructor
  · rintro ⟨hodd, heven⟩
    refine ⟨fun before after hsplit => ?_, trailingBackslashes_cons hslash body ▸ heven⟩
    have hbefore := hodd (character :: before) after (by rw [hsplit]; rfl)
    rwa [trailingBackslashes_cons hslash] at hbefore
  · rintro ⟨hodd, heven⟩
    refine ⟨fun before after hsplit => ?_, by rwa [trailingBackslashes_cons hslash]⟩
    obtain ⟨-, hfirst⟩ | ⟨front, rfl, hbody⟩ := List.cons_eq_append_iff.1 hsplit
    · exact absurd (List.cons.inj hfirst).1.symm hquote
    rw [trailingBackslashes_cons hslash]
    exact hodd front after hbody

/-! ### Reading and counting -/

/-- A reader closes the string behind a text that can stand between quotes. -/
theorem Quotable.closing?_append (hbody : Quotable body) (rest : List Char) :
    closing? (body ++ '"' :: rest) = some (body, rest) := by
  -- The cases are those of the reader; the counts of the rest are the same in each.
  induction body using closing?.induct with
  | case1 => rfl
  | case2 body => exact absurd hbody not_quotable_quote_cons
  | case3 taken body ih =>
      rw [List.cons_append, List.cons_append, closing?, ih (quotable_pair_iff.1 hbody)]
      rfl
  | case4 character body hquote hpair ih =>
      have hslash : character ≠ '\\' := by
        rintro rfl
        cases body with
        | nil => exact not_quotable_backslash hbody
        | cons taken body => exact hpair taken body rfl rfl
      rw [List.cons_append, closing?_cons hslash hquote,
        ih ((quotable_cons_iff hslash hquote).1 hbody)]
      rfl

/-- What a reader finds behind an opening quote is a text that can stand between quotes. -/
theorem quotable_of_closing? (hread : closing? inside = some (body, rest)) :
    inside = body ++ '"' :: rest ∧ Quotable body := by
  induction inside using closing?.induct generalizing body with
  | case1 => exact absurd hread (by simp [closing?])
  | case2 later =>
      rw [closing?, Option.some.injEq, Prod.mk.injEq] at hread
      obtain ⟨rfl, rfl⟩ := hread
      exact ⟨rfl, .nil⟩
  | case3 taken later ih =>
      rw [closing?, Option.map_eq_some_iff] at hread
      obtain ⟨⟨front, back⟩, hlater, hfound⟩ := hread
      obtain ⟨rfl, rfl⟩ := Prod.mk.inj hfound
      obtain ⟨rfl, hfront⟩ := ih hlater
      exact ⟨rfl, quotable_pair_iff.2 hfront⟩
  | case4 character later hquote hpair ih =>
      -- A backslash stands here only at the end, where nothing closes the string.
      have hslash : character ≠ '\\' := by
        rintro rfl
        cases later with
        | nil => exact absurd hread (by simp [closing?])
        | cons taken later => exact hpair taken later rfl rfl
      rw [closing?_cons hslash hquote, Option.map_eq_some_iff] at hread
      obtain ⟨⟨front, back⟩, hlater, hfound⟩ := hread
      obtain ⟨rfl, rfl⟩ := Prod.mk.inj hfound
      obtain ⟨hsplit, hfront⟩ := ih hlater
      exact ⟨congrArg (character :: ·) hsplit, (quotable_cons_iff hslash hquote).2 hfront⟩

/-- **Reading and counting find the same quote**: a reader closes the string at the quote behind a
body exactly when backslashes are odd in number in front of every quote of the body, and even in
front of that one. -/
theorem closing?_eq_some_iff :
    closing? inside = some (body, rest) ↔ inside = body ++ '"' :: rest ∧ Quotable body := by
  constructor
  · exact quotable_of_closing?
  · rintro ⟨rfl, hbody⟩
    exact hbody.closing?_append rest

/-! ### Escaped texts -/

/-- **An escaped text can stand between quotes.** -/
theorem quotable_escape (text : String) : Quotable (escape text).toList := by
  rw [toList_escape]
  exact (closing?_eq_some_iff.1 (closing?_escapeOnce_append text.toList [])).2

/-- **What escaping does to any text**: three passes write every character in its own form, all at
once. The result is a single line. Backslashes are odd in number in front of each of its quotes and
even at its end, so a reader closes the quoted text at the quote that was written to close it,
whatever stands behind. Reading the forms back from left to right gives the text. -/
theorem escape_quotable_and_read_back (text : String) :
    escape text = String.ofList (escapeOnce text.toList) ∧
    '\n' ∉ (escape text).toList ∧
    (∀ before after, (escape text).toList = before ++ '"' :: after →
      Odd (trailingBackslashes before)) ∧
    Even (trailingBackslashes (escape text).toList) ∧
    (∀ rest, ∃ inside, (quote text).toList ++ rest = '"' :: inside ∧
      closing? inside = some ((escape text).toList, rest)) ∧
    String.ofList (unescape (escape text).toList) = text := by
  have hquotable := quotable_escape text
  refine ⟨?_, ?_, hquotable.odd_of_quote, hquotable.even, fun rest => ?_, ?_⟩
  · rw [escape, escapeChars_eq_escapeOnce]
  · rw [toList_escape]
    exact newline_not_mem_escapeOnce text.toList
  · refine ⟨(escape text).toList ++ '"' :: rest, ?_, hquotable.closing?_append rest⟩
    simp [quote]
  · rw [toList_escape, unescape_escapeOnce, String.ofList_toList]

/-- A backslash in front of a quote, a newline, and a backslash at the end: three backslashes stand
in front of the quote and two at the end, and the quote behind them closes the string. -/
theorem escape_quotable_and_read_back_mixed :
    (escape "\\\"\n\\").toList = ['\\', '\\', '\\'] ++ '"' :: ['\\', 'n', '\\', '\\'] ∧
      Odd (trailingBackslashes ['\\', '\\', '\\']) ∧
      (∃ inside, (quote "\\\"\n\\").toList ++ ['n', '"'] = '"' :: inside ∧
        closing? inside = some ((escape "\\\"\n\\").toList, ['n', '"'])) ∧
      String.ofList (unescape (escape "\\\"\n\\").toList) = "\\\"\n\\" := by
  have hchars : (escape "\\\"\n\\").toList =
      ['\\', '\\', '\\'] ++ '"' :: ['\\', 'n', '\\', '\\'] := by decide
  obtain ⟨-, -, hodd, -, hclosing, hread⟩ := escape_quotable_and_read_back "\\\"\n\\"
  exact ⟨hchars, hodd _ _ hchars, hclosing ['n', '"'], hread⟩

end Label

end CallForest
