import CallForest.Shell.Pattern
import CallForest.Shell.Numeral

/-! # Regular expressions

A regular expression is searched for in a line. Of the places where it matches the first one is
taken, and there the longest piece that it matches.

* `Shell.Regular`: regular expressions.
* `Shell.Regular.search`: the first place where one matches. -/

namespace CallForest

namespace Shell

/-- A place between characters that belong to words and others. -/
inductive WordEdge where
  /-- A word starts. -/
  | start
  /-- A word ends. -/
  | finish
  /-- A word starts or ends. -/
  | either
  /-- No word starts or ends. -/
  | neither
  deriving DecidableEq, Repr

/-- A **regular expression**. -/
inductive Regular where
  /-- It matches nothing but the empty text. -/
  | empty
  /-- It matches a character. -/
  | place (place : Place)
  /-- It matches at the start of the line. -/
  | start
  /-- It matches at the end of the line. -/
  | finish
  /-- It matches at the start of a row of the line. -/
  | rowStart
  /-- It matches at the end of a row of the line. -/
  | rowFinish
  /-- It matches at the edge of a word. -/
  | edge (kind : WordEdge)
  /-- It remembers what it matches under a number. -/
  | group (number : Nat) (inner : Regular)
  /-- It matches what has been remembered under a number. -/
  | again (number : Nat)
  /-- One expression behind another. -/
  | sequence (first second : Regular)
  /-- One expression or another. -/
  | either (first second : Regular)
  /-- An expression that is repeated as often as given. -/
  | repeated (inner : Regular) (least : Nat) (most : Option Nat)
  deriving Repr

/-- Why a text is no regular expression. -/
inductive RegularFault where
  /-- A bracket is not closed. -/
  | openBracket
  /-- A bracket is the last character. -/
  | bareBracket
  /-- There is no class of characters of a name. -/
  | noClass
  /-- A name between brackets is not that of a character. -/
  | noCharacter
  /-- The characters from one to another are none. -/
  | badRange
  /-- A group is not closed. -/
  | openGroup
  /-- A group is closed that is not open. -/
  | closedGroup
  /-- A number of repetitions is none. -/
  | badRepetition
  /-- A number of repetitions is not closed. -/
  | openRepetition
  /-- A number of repetitions is too great. -/
  | tooBig
  /-- Nothing that can be repeated is in front of a number of repetitions. -/
  | badPreceding
  /-- Nothing is behind a backslash. -/
  | openEscape
  /-- There is no group of a number. -/
  | noGroup
  deriving DecidableEq, Repr

/-- How a fault is reported. -/
def RegularFault.message : RegularFault → String
  | .openBracket => "Unmatched [, [^, [:, [., or [="
  | .bareBracket => "Invalid regular expression"
  | .noClass => "Invalid character class name"
  | .noCharacter => "Invalid collation character"
  | .badRange => "Invalid range end"
  | .openGroup => "Unmatched ( or \\("
  | .closedGroup => "Unmatched ) or \\)"
  | .badRepetition => "Invalid content of \\\x7b\\\x7d"
  | .openRepetition => "Unmatched \\\x7b"
  | .tooBig => "Regular expression too big"
  | .badPreceding => "Invalid preceding regular expression"
  | .openEscape => "Trailing backslash"
  | .noGroup => "Invalid back reference"

namespace Regular

/-! ## Matching -/

/-- Whether a character belongs to words. -/
def isWordCharacter (character : Char) : Bool := character.isAlphanum || character = '_'

/-- How far a match has come. -/
structure Reach where
  /-- How many characters are in front of it. -/
  place : Nat
  /-- The last one of them. -/
  before : Option Char
  /-- The characters behind it. -/
  rest : Octets
  /-- What has been remembered, by numbers. -/
  groups : List (Nat × Octets)
  deriving DecidableEq, Repr

/-- Whether a match has come to an edge of a word. -/
def Reach.isAt (reach : Reach) (edge : WordEdge) : Bool :=
  let behind := reach.before.any isWordCharacter
  let ahead := reach.rest.head?.any isWordCharacter
  match edge with
  | .start => !behind && ahead
  | .finish => behind && !ahead
  | .either => behind != ahead
  | .neither => behind == ahead

/-- Matches without those that have come as far as one in front of them. -/
def distinct (reaches : List Reach) : List Reach :=
  reaches.foldr (fun first rest => first :: rest.filter fun other => other.place ≠ first.place) []

/-- Goes on as often as possible, at most `fuel` times, and gives the matches behind `least` steps,
those of many steps first. -/
def repeatStep (step : Reach → List Reach) (least : Nat) : Nat → Nat → Reach → List Reach
  | 0, done, reach => if least ≤ done then [reach] else []
  | fuel + 1, done, reach =>
    let further := (step reach).filter fun next => reach.place < next.place || done < least
    let behind := further.flatMap (repeatStep step least fuel (done + 1))
    behind ++ if least ≤ done then [reach] else []

/-- All **matches of an expression** from where one has come. -/
def reaches (folded : Bool) : Regular → Reach → List Reach
  | .empty, reach => [reach]
  | .place accepted, reach =>
    match reach.rest with
    | [] => []
    | first :: rest =>
      let holds := if folded then accepted.acceptsFolded first else accepted.accepts first
      if holds then [{ reach with place := reach.place + 1, before := some first, rest }] else []
  | .start, reach => if reach.place = 0 then [reach] else []
  | .finish, reach => if reach.rest.isEmpty then [reach] else []
  | .rowStart, reach => if reach.before.all (· = '\n') then [reach] else []
  | .rowFinish, reach => if reach.rest.head?.all (· = '\n') then [reach] else []
  | .edge kind, reach => if reach.isAt kind then [reach] else []
  | .group number inner, reach =>
    (reaches folded inner reach).map fun next =>
      let text := reach.rest.take (next.place - reach.place)
      { next with groups := (number, text) :: next.groups.filter (·.1 ≠ number) }
  | .again number, reach =>
    match reach.groups.lookup number with
    | none => []
    | some text =>
      if text.isPrefixOf reach.rest then
        [{ reach with
            place := reach.place + text.length
            before := text.getLast?.orElse fun _ => reach.before
            rest := reach.rest.drop text.length }]
      else []
  | .sequence first second, reach =>
    distinct ((reaches folded first reach).flatMap (reaches folded second))
  | .either first second, reach =>
    distinct (reaches folded first reach ++ reaches folded second reach)
  | .repeated inner least most, reach =>
    let fuel := min (most.getD (reach.rest.length + least)) (reach.rest.length + least)
    distinct (repeatStep (reaches folded inner) least fuel 0 reach)

/-- The longest of some matches, the first one of those. -/
def longest : List Reach → Option Reach
  | [] => none
  | first :: rest =>
    match longest rest with
    | none => some first
    | some other => if first.place < other.place then some other else some first

/-- A piece of a line that an expression matches. -/
structure Found where
  /-- What is in front of it. -/
  front : Octets
  /-- The piece. -/
  piece : Octets
  /-- What is behind it. -/
  behind : Octets
  /-- What has been remembered. -/
  groups : List (Nat × Octets)
  deriving DecidableEq, Repr

/-- What an expression matches at the place behind the `front` of a line. Matches that are not `fit`
do not count. -/
def matchAt (folded : Bool) (fit : Reach → Reach → Bool) (expression : Regular)
    (front rest : Octets) :
    Option Found :=
  let here : Reach := ⟨front.length, front.getLast?, rest, []⟩
  (longest ((reaches folded expression here).filter (fit here))).map fun reach =>
    ⟨front, rest.take (reach.place - front.length), reach.rest, reach.groups⟩

/-- The **first place** where an expression matches, in what is behind the `front` of a line. -/
def search (folded : Bool) (fit : Reach → Reach → Bool) (expression : Regular) (front : Octets) :
    Octets → Option Found
  | [] => matchAt folded fit expression front []
  | first :: rest =>
    match matchAt folded fit expression front (first :: rest) with
    | some found => some found
    | none => search folded fit expression (front ++ [first]) rest

/-! ## Other expressions -/

/-- The expression that matches a text itself. -/
def literal (text : Octets) : Regular :=
  text.foldr (fun character behind => .sequence (.place (.octet character)) behind) .empty

/-- The greatest number of a group that an expression remembers. -/
def groupCount : Regular → Nat
  | .group number inner => max number (groupCount inner)
  | .sequence first second | .either first second => max (groupCount first) (groupCount second)
  | .repeated inner _ _ => groupCount inner
  | _ => 0

end Regular

end Shell

end CallForest
