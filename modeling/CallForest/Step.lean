/-! # Steps of reading

A reader takes a list of tokens and, unless it refuses them, gives a value and the tokens behind it.
A step always takes at least one token, so a reader that repeats steps comes to an end.

* `Step`: a value and the fewer tokens behind it.
* `Step.one`, `Step.past`: steps over one token, at the head of the tokens or of a part of them.
* `Step.map`, `Step.after`, `Step.behind`, `Step.inside`, `Step.beyond`: another value at the same
  place, and a step seen from further in front.
* `Step.next`: a step behind another one.
* `Step.restOf`: the tokens behind a step that need not have been taken. -/

namespace CallForest

/-- A **step** of reading: a value and the tokens behind it, fewer than there were. -/
structure Step {τ : Type} (tokens : List τ) (α : Type) where
  /-- What was read. -/
  value : α
  /-- The tokens behind it. -/
  rest : List τ
  /-- At least one token was taken. -/
  shorter : rest.length < tokens.length

namespace Step

variable {τ α β : Type} {tokens later part rest : List τ} {first : τ}

/-- The same tokens read as another value. -/
def map (change : α → β) (step : Step tokens α) : Step tokens β :=
  ⟨change step.value, step.rest, step.shorter⟩

/-- A step behind some tokens, seen from in front of them. -/
def after (step : Step later α) (behind : later.length ≤ tokens.length) : Step tokens α :=
  ⟨step.value, step.rest, Nat.lt_of_lt_of_le step.shorter behind⟩

/-- A step over one token. -/
def one (value : α) : Step (first :: rest) α := ⟨value, rest, Nat.lt_succ_self _⟩

/-- A step behind one token, seen from in front of it. -/
def behind (step : Step rest α) : Step (first :: rest) α := step.after (Nat.le_succ _)

/-- A step over the token at the head of a part of the tokens. -/
def past (value : α) (within : later.length ≤ tokens.length) (begins : later = first :: rest) :
    Step tokens α :=
  ⟨value, rest, by subst begins; exact within⟩

/-- A step in a part of the tokens. -/
def inside (step : Step part α) (within : later.length ≤ tokens.length) (begins : later = part) :
    Step tokens α :=
  step.after (begins ▸ within)

/-- A step behind the token at the head of a part of the tokens. -/
def beyond (step : Step rest α) (within : later.length ≤ tokens.length)
    (begins : later = first :: rest) : Step tokens α :=
  step.after (Nat.le_of_lt (past step.value within begins).shorter)

/-- A step that begins behind another one. -/
def next (step : Step tokens α) (following : Step step.rest β) : Step tokens β :=
  following.after (Nat.le_of_lt step.shorter)

/-- The tokens behind a step that need not have been taken. -/
def restOf (step : Option (Step tokens α)) : List τ := step.elim tokens Step.rest

/-- A step that need not have been taken leaves no more tokens than there were. -/
theorem length_restOf_le (step : Option (Step tokens α)) :
    (restOf step).length ≤ tokens.length := by
  cases step with
  | none => exact Nat.le_refl _
  | some step => exact Nat.le_of_lt step.shorter

end Step

/-- What is left of a list behind its longest start in a class is no longer than the list. -/
theorem length_dropWhile_le {τ : Type} (inClass : τ → Bool) (tokens : List τ) :
    (tokens.dropWhile inClass).length ≤ tokens.length :=
  (List.dropWhile_sublist inClass).length_le

end CallForest
