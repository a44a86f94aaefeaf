import CallForest.Text.Escape
import Mathlib.Data.List.Basic

/-! # Quoted texts in front of other texts

The three passes of escaping write every character in its own form. A reader that goes from left to
right takes each form as a whole, so it closes a quoted text at the quote that was written to close
it, whatever stands behind, and gives the text back. So no two texts are quoted alike.

* `Label.escapeChars_eq_escapeOnce`: three passes and one pass write the same.
* `Label.closing?`: where a reader closes a quoted string.
* `Label.closing?_escapeOnce_append`, `Label.unescape_escapeOnce`: reading an escaped text.
* `Label.quote_append_inj`: a quoted text and what stands behind it are found in the text they make.
-/

namespace CallForest

namespace Label

/-! ### Forms of characters -/

/-- **Three passes are one pass**: later passes leave alone what earlier ones have written. -/
theorem escapeChars_eq_escapeOnce (text : List Char) : escapeChars text = escapeOnce text := by
  rw [escapeChars, substitute, substitute, substitute, List.flatMap_assoc, List.flatMap_assoc,
    escapeOnce]
  congr 1
  funext character
  by_cases hslash : character = '\\'
  · rw [hslash]
    rfl
  · by_cases hquote : character = '"'
    · rw [hquote]
      rfl
    · simp [escapeChar, hslash, hquote]

/-- A character that is no backslash is read as itself. -/
theorem unescape_cons {character : Char} (hslash : character ≠ '\\') (rest : List Char) :
    unescape (character :: rest) = character :: unescape rest := by
  rw [unescape] <;> simp [hslash]

/-- **Reading a form back** gives its character, and goes on with what stands behind it. -/
theorem unescape_escapeChar_append (character : Char) (rest : List Char) :
    unescape (escapeChar character ++ rest) = character :: unescape rest := by
  by_cases hslash : character = '\\'
  · rw [hslash]
    simp [escapeChar, unescape]
  by_cases hquote : character = '"'
  · rw [hquote]
    simp [escapeChar, unescape]
  by_cases hline : character = '\n'
  · rw [hline]
    simp [escapeChar, unescape]
  rw [escapeChar, if_neg hslash, if_neg hquote, if_neg hline, List.singleton_append,
    unescape_cons hslash]

/-- No form of a character contains a newline. -/
theorem newline_not_mem_escapeChar (character : Char) : '\n' ∉ escapeChar character := by
  rw [escapeChar]
  split_ifs <;> simp_all [eq_comm]

/-- An escaped text is a single line. -/
theorem newline_not_mem_escapeOnce (text : List Char) : '\n' ∉ escapeOnce text := by
  simp [escapeOnce, newline_not_mem_escapeChar]

/-! ### Reading an escaped text -/

/-- The **body of a quoted string** and what stands behind its closing quote, read from behind the
opening one. A backslash takes the next character with it, so the string closes at the first quote
that no backslash has taken. -/
def closing? : List Char → Option (List Char × List Char)
  | [] => none
  | '"' :: rest => some ([], rest)
  | '\\' :: taken :: rest => (closing? rest).map (Prod.map ('\\' :: taken :: ·) id)
  | character :: rest => (closing? rest).map (Prod.map (character :: ·) id)

/-- A character that is neither a backslash nor a quote belongs to the body. -/
theorem closing?_cons {character : Char} (hslash : character ≠ '\\') (hquote : character ≠ '"')
    (rest : List Char) :
    closing? (character :: rest) = (closing? rest).map (Prod.map (character :: ·) id) := by
  rw [closing?] <;> simp [hslash, hquote]

/-- No form of a character closes a quoted string. -/
theorem closing?_escapeChar_append (character : Char) (rest : List Char) :
    closing? (escapeChar character ++ rest) =
      (closing? rest).map (Prod.map (escapeChar character ++ ·) id) := by
  rw [escapeChar]
  split_ifs with hslash hquote hline
  · rw [List.cons_append, List.singleton_append, closing?]
    rfl
  · rfl
  · rfl
  · exact closing?_cons hslash hquote rest

/-- **An escaped text is closed where it ends**, whatever stands behind it. -/
theorem closing?_escapeOnce_append (text rest : List Char) :
    closing? (escapeOnce text ++ '"' :: rest) = some (escapeOnce text, rest) := by
  induction text with
  | nil => rfl
  | cons character text ih =>
      rw [escapeOnce, List.flatMap_cons, ← escapeOnce, List.append_assoc,
        closing?_escapeChar_append, ih]
      rfl

/-- **Reading an escaped text back** gives the text. -/
theorem unescape_escapeOnce (text : List Char) : unescape (escapeOnce text) = text := by
  induction text with
  | nil => rfl
  | cons character text ih =>
      rw [escapeOnce, List.flatMap_cons, ← escapeOnce, unescape_escapeChar_append, ih]

/-- An escaped text and what stands behind its closing quote are both found in the text they make.
-/
theorem escapeOnce_append_inj {text text' rest other : List Char}
    (hsame : escapeOnce text ++ '"' :: rest = escapeOnce text' ++ '"' :: other) :
    text = text' ∧ rest = other := by
  have hread : some (escapeOnce text, rest) = some (escapeOnce text', other) := by
    rw [← closing?_escapeOnce_append, hsame, closing?_escapeOnce_append]
  obtain ⟨hbody, hrest⟩ := Prod.mk.inj (Option.some.inj hread)
  refine ⟨?_, hrest⟩
  rw [← unescape_escapeOnce text, hbody, unescape_escapeOnce]

/-! ### Quoted texts -/

/-- An escaped text, character by character. -/
theorem toList_escape (text : String) : (escape text).toList = escapeOnce text.toList := by
  rw [escape, String.toList_ofList, escapeChars_eq_escapeOnce]

/-- A quoted text, character by character. -/
theorem toList_quote (text : String) :
    (quote text).toList = '"' :: (escapeOnce text.toList ++ ['"']) := by
  simp [quote, toList_escape]

/-- **A quoted text and what stands behind it** are both found in the text they make. -/
theorem quote_append_inj {text text' : String} {rest other : List Char}
    (hsame : (quote text).toList ++ rest = (quote text').toList ++ other) :
    text = text' ∧ rest = other := by
  simp only [toList_quote, List.cons_append, List.append_assoc, List.nil_append,
    List.cons.injEq, true_and] at hsame
  obtain ⟨htext, hrest⟩ := escapeOnce_append_inj hsame
  exact ⟨String.toList_injective htext, hrest⟩

/-- No two texts are quoted alike. -/
theorem quote_injective : Function.Injective quote := by
  intro text text' hsame
  have hchars : (quote text).toList ++ [] = (quote text').toList ++ [] := by rw [hsame]
  exact (quote_append_inj hchars).1

/-- A quoted text is a single line. -/
theorem newline_not_mem_quote (text : String) : '\n' ∉ (quote text).toList := by
  simp [toList_quote, newline_not_mem_escapeOnce]

end Label

end CallForest
