import CallForest.FileSystem.Change
import CallForest.Shell.Pattern

/-! # Fields of expanded words

An expanded word is a row of characters that remember where they come from. What an expansion
outside quotes gave is split at separators, and a field with an active pattern stands for the files
that the pattern matches.

* `Shell.Item`: a character of an expanded word, or a border in it.
* `Shell.fieldsOf`: the fields of an expanded word.
* `Shell.textOf`: an expanded word that is not split.
* `Shell.matching`: the paths that a pattern matches. -/

namespace CallForest

namespace Shell

/-- Where a character of an expanded word comes from. -/
inductive Origin where
  /-- It is in the word itself. -/
  | literal
  /-- It is quoted, or comes from an expansion that is. -/
  | quoted
  /-- It comes from an expansion that is not quoted. -/
  | value
  deriving DecidableEq, Repr

/-- A piece of an expanded word. -/
inductive Item where
  /-- A character. -/
  | octet (value : Char) (origin : Origin)
  /-- A pair of quotes. -/
  | quotes
  /-- The beginning of an expansion, which may be that of all arguments between quotes. -/
  | edge (arguments : Bool)
  /-- The border between two arguments. -/
  | border
  deriving DecidableEq, Repr

/-- The items of a text. -/
def itemsOf (origin : Origin) (text : Octets) : List Item := text.map (Item.octet · origin)

/-- The text of an expanded word that is not split. -/
def textOf (items : List Item) : Octets :=
  items.filterMap fun
    | .octet value _ => some value
    | _ => none

/-- The characters of a pattern that an expanded word is. -/
def glyphsOf (items : List Item) : List Glyph :=
  items.filterMap fun
    | .octet value origin => some ⟨value, origin ≠ .quoted⟩
    | _ => none

/-! ## Splitting -/

/-- A word that is being split. -/
structure Splitter where
  /-- The fields that are complete, the last one first. -/
  done : List (List Item)
  /-- The field that has been begun, the last item first. -/
  current : List Item
  /-- Whether a blank separator has just ended a field. -/
  behindBlank : Bool
  /-- Whether the expansion is that of all arguments. -/
  inArguments : Bool
  /-- Whether the expansion in front was that of all arguments. -/
  behindArguments : Bool

namespace Splitter

/-- Adds an item to the field. -/
def add (splitter : Splitter) (item : Item) : Splitter :=
  { splitter with current := item :: splitter.current }

/-- Ends the field. -/
def cut (splitter : Splitter) : Splitter :=
  { splitter with done := splitter.current :: splitter.done, current := [] }

/-- Comes to a separator. Blank ones in a row count as one, together with one that is not blank, and
there is no field in front of the first one. -/
def separate (splitter : Splitter) (blank : Bool) : Splitter :=
  if splitter.behindBlank then { splitter with behindBlank := blank }
  else
    let counts := blank && !splitter.inArguments && !splitter.behindArguments
    if splitter.current.isEmpty && counts then splitter
    else { splitter.cut with behindBlank := counts }

/-- Comes to an item. -/
def step (separators : Octets) (splitter : Splitter) (item : Item) : Splitter :=
  match item with
  | .edge arguments =>
    { splitter with
      behindBlank := false
      inArguments := arguments
      behindArguments := splitter.inArguments }
  | .border => if splitter.inArguments then splitter.cut else splitter.separate true
  | .octet value .value =>
    if separators.contains value then
      splitter.separate (value = ' ' || value = '\t' || value = '\n')
    else { splitter.add item with behindBlank := false }
  | item => splitter.add item

/-- The fields at the end of the word. Behind all arguments there is a last one even if it is empty.
-/
def finish (splitter : Splitter) : List (List Item) :=
  let done :=
    if splitter.current.isEmpty && !splitter.inArguments then splitter.done
    else splitter.current :: splitter.done
  (done.map List.reverse).reverse

end Splitter

/-- The fields that an expanded word is split into. -/
def split (separators : Octets) (items : List Item) : List (List Item) :=
  (items.foldl (Splitter.step separators) ⟨[], [], false, false, false⟩).finish

/-! ## Files -/

/-- The pieces of a pattern between slashes. -/
def pieces : List Glyph → List (List Glyph)
  | [] => [[]]
  | first :: rest =>
    if first.octet = '/' then [] :: pieces rest
    else
      match pieces rest with
      | [] => [[first]]
      | next :: more => (first :: next) :: more

/-- Whether a name can be meant by a pattern: one that begins with a dot only by a pattern that
does. -/
def namedBy (pattern : Pattern) (name : Octets) : Bool :=
  (name.head? ≠ some '.' || pattern.head? = some (.octet '.')) && pattern.accepts name

/-- The paths that go on from others by a piece of a pattern. -/
def goOn (files : FileSystem) (piece : List Glyph) (fronts : List Octets) : List Octets :=
  let pattern := Pattern.ofGlyphs piece
  if !pattern.isOpen then fronts.map (· ++ (Pattern.unescape piece).map Glyph.octet)
  else
    fronts.flatMap fun front =>
      let path := if front.isEmpty then "." else Octets.toText front
      match files.directoryAt path with
      | .error _ => []
      | .ok location =>
        let names := [['.'], ['.', '.']] ++ (files.children location).map Octets.ofText
        (names.filter (namedBy pattern)).map (front ++ ·)

/-- The paths that pieces of a pattern lead to from others. -/
def goOnEach (files : FileSystem) : List (List Glyph) → List Octets → List Octets
  | [], fronts => fronts
  | [last], fronts => goOn files last fronts
  | piece :: rest, fronts => goOnEach files rest ((goOn files piece fronts).map (· ++ ['/']))

/-- Whether there is something under a path. -/
def exists? (files : FileSystem) (path : Octets) : Bool := (files.find (Octets.toText path)).isOk

/-- Whether a pattern has more than one path. -/
def hasPattern (glyphs : List Glyph) : Bool :=
  (pieces glyphs).any fun piece => (Pattern.ofGlyphs piece).isOpen

/-- The **paths that a pattern matches**, in ascending order. -/
def matching (files : FileSystem) (glyphs : List Glyph) : List Octets :=
  ((goOnEach files (pieces glyphs) [[]]).filter (exists? files)).mergeSort fun path other =>
    decide (String.ofList path ≤ String.ofList other)

/-- The fields that a field stands for: the files that it matches, if there are any. -/
def spread (files : FileSystem) (items : List Item) : List Octets :=
  let glyphs := glyphsOf items
  if hasPattern glyphs then
    match matching files glyphs with
    | [] => [textOf items]
    | paths => paths
  else [textOf items]

/-- The **fields of an expanded word**. Patterns are looked up among files unless they are `quiet`.
-/
def fieldsOf (files : FileSystem) (separators : Octets) (quiet : Bool) (items : List Item) :
    List Octets :=
  (split separators items).flatMap fun field => if quiet then [textOf field] else spread files field

end Shell

end CallForest
