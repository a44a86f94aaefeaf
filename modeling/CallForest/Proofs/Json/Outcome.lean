import CallForest.Proofs.Json.Tree
import Mathlib.Data.List.Basic

/-! # What readers take

A reader gives a value and leaves some bytes, or refuses. That is all that matters of its result
here: the count of the bytes that were taken and the words of a refusal are left out.

* `Json.outcome`: the value that was read and the bytes that are left.
* `Json.skipBlank_append`: blanks in front of anything else.
* `Json.Delimited`: bytes at which a numeral ends. -/

namespace CallForest

namespace Json

variable {α β : Type} {bytes blanks rest : Bytes}

/-! ### Outcomes -/

/-- **What a reader takes**: a value, and the bytes that are left behind it. -/
def outcome (result : Except Fault (Step bytes α)) : Option (α × Bytes) :=
  result.toOption.map fun step => (step.value, step.rest)

/-- A reader that gives a value. -/
@[simp] theorem outcome_ok (step : Step bytes α) :
    outcome (.ok step) = some (step.value, step.rest) := rfl

/-- A reader that refuses. -/
@[simp] theorem outcome_error (fault : Fault) :
    outcome (.error fault : Except Fault (Step bytes α)) = none := rfl

/-- A reader takes a value when it gives a step over it. -/
theorem outcome_eq_some_iff {result : Except Fault (Step bytes α)} {value : α} :
    outcome result = some (value, rest) ↔ ∃ hshorter, result = .ok ⟨value, rest, hshorter⟩ := by
  cases result with
  | error fault => simp
  | ok step =>
      -- That fewer bytes are left is a proposition, so that steps with the same value and the same
      -- bytes are the same.
      obtain ⟨found, left, hshorter⟩ := step
      rw [outcome_ok, Option.some.injEq, Prod.mk.injEq]
      constructor
      · rintro ⟨rfl, rfl⟩
        exact ⟨hshorter, rfl⟩
      · rintro ⟨_, hsame⟩
        obtain ⟨rfl, rfl⟩ := Step.mk.inj (Except.ok.inj hsame)
        exact ⟨rfl, rfl⟩

/-- A reader takes nothing when it refuses. -/
theorem outcome_eq_none_iff {result : Except Fault (Step bytes α)} :
    outcome result = none ↔ ∃ fault, result = .error fault := by
  cases result <;> simp

/-- A step with another value leaves the same. -/
theorem outcome_map (result : Except Fault (Step bytes α)) (change : α → β) :
    outcome (result.map (·.map change)) = (outcome result).map (Prod.map change id) := by
  cases result <;> rfl

/-- A step seen from one byte further in front leaves the same. -/
theorem outcome_behind {first : UInt8} (result : Except Fault (Step bytes α)) :
    outcome (result.map fun step => (step.behind : Step (first :: bytes) α)) = outcome result := by
  cases result <;> rfl

/-! ### Blanks -/

/-- There need not be any blanks. -/
theorem isBlanks_nil : IsBlanks [] := by
  simp [IsBlanks]

/-- Blanks are skipped in front of anything else. -/
theorem skipBlank_append (hblanks : IsBlanks blanks) (rest : Bytes) :
    skipBlank (blanks ++ rest) = skipBlank rest :=
  List.dropWhile_append_of_pos hblanks

/-- Something that is no blank is not skipped. -/
theorem skipBlank_cons {byte : UInt8} (hbyte : isBlank byte = false) :
    skipBlank (byte :: rest) = byte :: rest := by
  rw [skipBlank, List.dropWhile_cons, hbyte]
  rfl

/-- Nothing is left of blanks. -/
theorem skipBlank_blanks (hblanks : IsBlanks blanks) : skipBlank blanks = [] := by
  rw [← List.append_nil blanks, skipBlank_append hblanks]
  rfl

/-! ### The end of a numeral -/

/-- Bytes at which a **numeral ends**: they do not begin with a digit, a point or the mark of an
exponent. -/
def Delimited (rest : Bytes) : Prop :=
  ∀ byte ∈ rest.head?, isDigit byte = false ∧ byte ≠ 0x2e ∧ byte ≠ 0x65 ∧ byte ≠ 0x45

/-- A numeral ends with the document. -/
theorem delimited_nil : Delimited [] := by
  simp [Delimited]

/-- A numeral ends at what separates and closes. -/
theorem delimited_cons {byte : UInt8} (hbyte : byte = 0x2c ∨ byte = 0x5d ∨ byte = 0x7d)
    (rest : Bytes) : Delimited (byte :: rest) := by
  intro first hfirst
  obtain rfl : byte = first := Option.some.inj hfirst
  rcases hbyte with rfl | rfl | rfl <;> decide

/-- Blanks do not keep a numeral from ending. -/
theorem delimited_append (hblanks : IsBlanks blanks) (hrest : Delimited rest) :
    Delimited (blanks ++ rest) := by
  cases blanks with
  | nil => exact hrest
  | cons first blanks =>
      intro byte hbyte
      obtain rfl : first = byte := Option.some.inj hbyte
      -- The first byte is a blank, and no blank goes on with a numeral.
      have hblank : isBlank first = true := hblanks first List.mem_cons_self
      simp only [isBlank, Bool.or_eq_true, decide_eq_true_eq] at hblank
      rcases hblank with ((rfl | rfl) | rfl) | rfl <;> decide

end Json

end CallForest
