import CallForest.Text.Alphanumeric
import CallForest.Text.Blank
import CallForest.Text.Utf8

/-! # Log filters

A filter says how much is logged for which target. It is written as directives with commas between
them: a level alone, a target alone, for which everything is logged, or a target and its level. The
longest target that begins the one in question decides, and a level alone decides for all others.

An equals sign is looked for in a directive without its blank edges, and its place, counted in
bytes, is then a place in the directive as it is written. So blanks in front of a target move the
cut to the left; there must not be a cut within a character.

Directives for spans are left out. They name the span and its fields in square brackets, which are
read here as any other part of a target is, whether they are closed or not.

* `Log.Level`: how much is logged.
* `Log.Directive`, `Log.Directive.parse`: directives and how they are read.
* `Log.Misreading`: why a text cannot be read as a filter.
* `Log.Filter`, `Log.Filter.parse`, `Log.Filter.text`: filters, how they are read and written.
* `Log.Filter.levelFor`: how much is logged for a target.
* `Log.filter?`: the filter of a run. -/

namespace CallForest

namespace Log

/-! ## Levels -/

/-- How much is logged. -/
inductive Level where
  /-- Nothing. -/
  | off
  /-- Errors. -/
  | error
  /-- Warnings as well. -/
  | warn
  /-- What a run does as well. -/
  | info
  /-- What helps to find mistakes as well. -/
  | debug
  /-- Everything. -/
  | trace
  deriving DecidableEq, Repr

namespace Level

/-- The number of a level; a greater one logs more. -/
def rank : Level → Nat
  | .off => 0
  | .error => 1
  | .warn => 2
  | .info => 3
  | .debug => 4
  | .trace => 5

/-- The name of a level. -/
def name : Level → String
  | .off => "off"
  | .error => "error"
  | .warn => "warn"
  | .info => "info"
  | .debug => "debug"
  | .trace => "trace"

/-- Every level. -/
def all : List Level := [.off, .error, .warn, .info, .debug, .trace]

/-- The number that decimal digits write, which may begin with a plus sign. -/
def numberOf? (text : List Char) : Option Nat :=
  let digits := if text.head? = some '+' then text.tail else text
  if digits ≠ [] ∧ digits.all Char.isDigit then
    some (digits.foldl (fun value digit => value * 10 + (digit.toNat - '0'.toNat)) 0)
  else none

/-- The level of a number, or of a name whose ASCII letters may be of either case. -/
def ofText? (text : List Char) : Option Level :=
  match numberOf? text with
  | some number => all.find? (·.rank = number)
  | none => all.find? (·.name.toList = text.map Char.toLower)

end Level

/-! ## Directives -/

/-- How much is logged for the targets that begin with a text, or for all targets. -/
structure Directive where
  /-- What the targets begin with, unless all are meant. -/
  target : Option String
  /-- How much is logged for them. -/
  level : Level
  deriving DecidableEq, Repr

/-- Why a text cannot be read as a filter. -/
inductive Misreading where
  /-- A directive does not begin as one does, or its level is none. -/
  | meaningless
  /-- A directive would be cut within a character. -/
  | cutCharacter
  deriving DecidableEq, Repr

namespace Directive

/-- Whether a directive begins with a character: a letter, a number, a dash, a colon or an
underscore. -/
def beginsWith (character : Char) : Bool :=
  character = '-' || character = ':' || character = '_' || Alphanumeric.contains character

/-- The level behind an equals sign. Without a level everything is logged. -/
def levelOf? (text : List Char) : Option Level :=
  if text.isEmpty then some .trace else Level.ofText? text

/-- Reads a directive without an equals sign. What is no level is a target. -/
def ofWord (word : List Char) : Directive :=
  match Level.ofText? word with
  | some level => ⟨none, level⟩
  | none => ⟨some (String.ofList word), .trace⟩

/-- The parts of a text in front of and behind one of its bytes, unless they begin or end within a
character. -/
def around? (byte : Nat) (text : List Char) : Option (List Char × List Char) := do
  let (front, _) ← Utf8.splitAt? byte text
  let (_, back) ← Utf8.splitAt? (byte + 1) text
  return (front, back)

/-- Reads a **directive** that is not about spans: a square bracket is part of a target. -/
def parse (part : List Char) : Except Misreading Directive :=
  match Blank.trimChars part with
  | [] => .error .meaningless
  | first :: rest =>
    if !beginsWith first then .error .meaningless
    else
      let target := (first :: rest).takeWhile (· ≠ '=')
      if target = first :: rest then .ok (ofWord part)
      else
        match around? (Utf8.size target) part with
        | none => .error .cutCharacter
        | some (front, back) =>
          match levelOf? back with
          | none => .error .meaningless
          | some level => .ok ⟨some (String.ofList front), level⟩

/-- A directive as text. -/
def text (directive : Directive) : String :=
  match directive.target with
  | none => directive.level.name
  | some target => target ++ "=" ++ directive.level.name

/-- Whether a directive comes in front of another one: longer targets do, and of two of one length
the one that is greater. A directive for all targets comes last. -/
def precedes (directive other : Directive) : Bool :=
  match directive.target, other.target with
  | some target, some against =>
    against.utf8ByteSize < target.utf8ByteSize ||
      (against.utf8ByteSize = target.utf8ByteSize && decide (against < target))
  | some _, none => true
  | none, _ => false

/-- Whether a directive is about a target. -/
def covers (target : String) (directive : Directive) : Bool :=
  match directive.target with
  | none => true
  | some start => start.toList.isPrefixOf target.toList

end Directive

/-! ## Filters -/

/-- A **filter**: directives for different targets, the ones that decide first in front. -/
abbrev Filter := List Directive

namespace Filter

/-- Puts a directive in its place, in place of one for the same target. -/
def add (directive : Directive) : Filter → Filter
  | [] => [directive]
  | first :: rest =>
    if first.target = directive.target then directive :: rest
    else if directive.precedes first then directive :: first :: rest
    else first :: add directive rest

/-- The filter of some directives, of which a later one replaces an earlier one for its target. -/
def ofDirectives (directives : List Directive) : Filter :=
  directives.foldl (fun filter directive => filter.add directive) []

/-- The parts of a text between commas. -/
def parts : List Char → List (List Char)
  | [] => [[]]
  | first :: rest =>
    if first = ',' then [] :: parts rest
    else
      match parts rest with
      | [] => [[first]]
      | next :: more => (first :: next) :: more

/-- Reads a **filter**. Empty parts are passed over, and the first directive that cannot be read
decides why the filter cannot. -/
def parse (text : String) : Except Misreading Filter :=
  (((parts text.toList).filter (· ≠ [])).mapM Directive.parse).map ofDirectives

/-- A filter as text. -/
def text (filter : Filter) : String := String.intercalate "," (filter.map Directive.text)

/-- How much is logged for a target. -/
def levelFor (target : String) (filter : Filter) : Level :=
  match filter.find? (·.covers target) with
  | some directive => directive.level
  | none => .off

/-- The filter that holds if none is asked for. -/
def standard : Filter := [⟨none, .info⟩]

end Filter

/-- The filter that is asked for, or the standard one if there is none or it means nothing. There is
no filter if a character would be cut. -/
def chosen? : Option String → Option Filter
  | none => some .standard
  | some text =>
    if Blank.isBlank text then some .standard
    else
      match Filter.parse text with
      | .ok filter => some filter
      | .error .meaningless => some .standard
      | .error .cutCharacter => none

/-- The **filter of a run**, which has none if a character would be cut. If the run is to tell more,
the level for all targets becomes the one that helps to find mistakes. -/
def filter? (asked : Option String) (verbose : Bool) : Option Filter :=
  (chosen? asked).map fun filter => if verbose then filter.add ⟨none, .debug⟩ else filter

end Log

end CallForest
