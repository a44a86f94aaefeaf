import CallForest.Toml.Key
import CallForest.Toml.Scalar

/-! # Tables of TOML documents

A document is a table: keys with values, in order. A table comes into being by its header, as part
of the path of another header, by a dotted key, or between braces, and this decides where it may be
extended: dotted keys extend only tables of dotted keys, a header gives its own entries only once,
and what stands between braces is complete.

* `Toml.Node`, `Toml.Entries`: values, tables, and what a table holds.
* `Toml.Entries.enter`: enters a value under a dotted path.
* `Toml.Entries.reach`: changes the table that the path of a header leads to.
* `Toml.Entries.headTable`, `Toml.Entries.headRow`: give a table its header, and rows one more row.
* `Toml.Entries.enterBelow`: enters a value below a header. -/

namespace CallForest

namespace Toml

/-- How a table came into being. -/
inductive TableKind where
  /-- It stands between braces. -/
  | braced
  /-- It has a header of its own. -/
  | headed
  /-- Only headers of tables below it are there. -/
  | implied
  /-- Dotted keys lead through it. -/
  | dotted
  deriving DecidableEq, Repr

/-- Whether a dotted path may lead through a table. It may end only in a table of dotted keys. -/
def TableKind.leads (path : List Key) : TableKind → Bool
  | .dotted => true
  | .implied => !path.isEmpty
  | .headed | .braced => false

/-- A value or a table. -/
inductive Node where
  /-- A value without parts. -/
  | scalar (value : Scalar) (span : Span)
  /-- An array. -/
  | array (elements : List Node) (span : Span)
  /-- A table, with the span of its header and its own entries, or of its braces. -/
  | table (kind : TableKind) (entries : List (Key × Node)) (span : Option Span)
  /-- Tables that share a header, the last of them apart. -/
  | rows (former : List Node) (last : Node)

/-- What a table holds, in the order of its keys. -/
abbrev Entries := List (Key × Node)

/-- Where a node stands. Tables that only lead to others stand nowhere, and rows reach from the
first to the last. -/
def Node.span? : Node → Option Span
  | .scalar _ span => some span
  | .array _ span => some span
  | .table _ _ span => span
  | .rows former last =>
    match former.headD last, last with
    | .table _ _ (some first), .table _ _ (some last) => some ⟨first.start, last.stop⟩
    | _, _ => none

namespace Entries

/-- The node under a key. -/
def find? (key : String) (entries : Entries) : Option Node :=
  (List.find? (·.1.text = key) entries).map (·.2)

/-- The entries without a key. -/
def erase (key : String) (entries : Entries) : Entries := entries.filter (·.1.text ≠ key)

/-- Changes the node under a key, which is `none` if there is none, and refuses if the change does.
A new key comes last. -/
def alter (key : Key) (change : Option Node → Option Node) : Entries → Option Entries
  | [] => (change none).map fun node => [(key, node)]
  | (other, node) :: rest =>
    if other.text = key.text then (change (some node)).map fun node => (other, node) :: rest
    else (alter key change rest).map ((other, node) :: ·)

/-- **Enters a value** under a dotted path, unless the key is there already or a table on the path
may not be extended so. -/
def enter (value : Node) (key : Key) : List Key → Entries → Option Entries
  | [], entries => entries.alter key fun found => if found.isSome then none else some value
  | next :: path, entries => entries.alter next fun found =>
    match found with
    | none => (enter value key path []).map fun below => .table .dotted below none
    | some (.table kind below span) =>
      if kind.leads path then
        (enter value key path below).map fun below => .table kind below span
      else none
    | some (.rows former (.table kind below span)) =>
      if path.isEmpty then none
      else (enter value key path below).map fun below => .rows former (.table kind below span)
    | some _ => none

/-- Changes the entries of the table that the path of a header leads to; it leads to the last of
several rows. A table that is not there is implied. -/
def reach (change : Entries → Option Entries) : List Key → Entries → Option Entries
  | [], entries => change entries
  | next :: path, entries => entries.alter next fun found =>
    match found with
    | none => (reach change path []).map fun below => .table .implied below none
    | some (.table .braced _ _) => none
    | some (.table kind below span) =>
      (reach change path below).map fun below => .table kind below span
    | some (.rows former (.table kind below span)) =>
      (reach change path below).map fun below => .rows former (.table kind below span)
    | some _ => none

/-- Gives a table its header, which makes it the last entry. Only a table that is implied so far may
be there. -/
def headTable (span : Span) (key : Key) (entries : Entries) : Option Entries :=
  match entries.find? key.text with
  | none => some (entries ++ [(key, .table .headed [] (some span))])
  | some (.table .implied below _) =>
    some (entries.erase key.text ++ [(key, .table .headed below (some span))])
  | some _ => none

/-- Appends a row to the tables that share a header. -/
def headRow (span : Span) (key : Key) (entries : Entries) : Option Entries :=
  entries.alter key fun found =>
    let row : Node := .table .headed [] (some span)
    match found with
    | none => some (.rows [] row)
    | some (.rows former last) => some (.rows (former ++ [last]) row)
    | some _ => none

/-- Enters a value into the table or the last row under a key, whose span is extended to the value.
-/
def enterBelow (value : Node) (key : Key) (path : List Key) (header : Key) (entries : Entries) :
    Option Entries :=
  let extend (span : Option Span) : Option Span :=
    match span, value.span? with
    | some span, some own => some ⟨span.start, own.stop⟩
    | _, _ => span
  entries.alter header fun found =>
    match found with
    | some (.table kind below span) =>
      (enter value key path below).map fun below => .table kind below (extend span)
    | some (.rows former (.table kind below span)) =>
      (enter value key path below).map fun below => .rows former (.table kind below (extend span))
    | _ => none

end Entries

end Toml

end CallForest
