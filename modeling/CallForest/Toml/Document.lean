import CallForest.Toml.Value

/-! # TOML documents

A document is read statement by statement, each with the end of its line: headers of tables and of
rows, and assignments, which belong to the header above them. A statement that clashes with an
earlier one is refused at its first character.

* `Toml.Statement`, `Toml.statement`: statements and their reader.
* `Toml.Draft`, `Toml.Draft.add`: what the statements so far say.
* `Toml.read`: the entries of a document. -/

namespace CallForest

namespace Toml

/-! ## Statements -/

/-- A statement. -/
inductive Statement where
  /-- A line without a statement. -/
  | blank
  /-- A value under a path of keys. -/
  | assignment (path : Path) (value : Node)
  /-- A header of a table. -/
  | table (path : Path) (span : Span)
  /-- A header of a row. -/
  | row (path : Path) (span : Span)

/-- A statement with the end of its line. -/
def Step.endLine {α : Type} {chars : List Char} (step : Step chars α) :
    Except Fault (Step chars α) :=
  match done : Toml.endLine step.rest with
  | .error fault => .error fault
  | .ok rest =>
    .ok ⟨step.value, rest, Nat.lt_of_le_of_lt (length_endLine_le done) step.shorter⟩

/-- Reads two closing brackets, which stand side by side. -/
def brackets : Reader Unit
  | ']' :: ']' :: _ => .ok (Step.one ()).behind
  | chars => .error (.here chars)

/-- Reads the header of a row behind its opening brackets. -/
def rowHeader : Reader Path := fun chars => do
  let path ← keyPath chars
  let brackets ← brackets path.rest
  return path.next (brackets.map fun _ => path.value)

/-- Reads the header of a table behind its opening bracket. -/
def tableHeader : Reader Path := fun chars => do
  let path ← keyPath chars
  let bracket ← mark ']' path.rest
  return path.next (bracket.map fun _ => path.value)

/-- Reads a header, if there is one. -/
def header? : (chars : List Char) → Option (Except Fault (Step chars Statement))
  | '[' :: '[' :: rest =>
    some <| (rowHeader rest).map fun step =>
      (step.map fun path => .row path (.between ('[' :: '[' :: rest) step.rest)).behind.behind
  | ['['] => some (.error (.here ['[']))
  | '[' :: rest =>
    some <| (tableHeader rest).map fun step =>
      (step.map fun path => .table path (.between ('[' :: rest) step.rest)).behind
  | _ => none

/-- Reads a comment behind its first character. -/
def comment (rest : List Char) : Except Fault (Step ('#' :: rest) Statement) :=
  match done : endLine (rest.dropWhile isCommentChar) with
  | .error fault => .error fault
  | .ok behind =>
    .ok ⟨.blank, behind, Nat.lt_succ_of_le
      (Nat.le_trans (length_endLine_le done) (length_dropWhile_le isCommentChar rest))⟩

/-- Reads a header or an assignment. -/
def definition : Reader Statement := fun chars =>
  match header? chars with
  | some (.error fault) => .error fault
  | some (.ok step) => Step.endLine step
  | none =>
    match assignment (value nestingLimit) chars with
    | .error fault => .error fault
    | .ok step => Step.endLine (step.map fun (path, node) => .assignment path node)

/-- Reads a **statement** behind the blanks in front of it. -/
def statement : Reader Statement
  | '#' :: rest => comment rest
  | chars =>
    match found : newline? chars with
    | some rest => .ok ⟨.blank, rest, length_newline?_lt found⟩
    | none => definition chars

/-! ## Documents -/

/-- What the statements so far say. -/
structure Draft where
  /-- The entries of the document. -/
  entries : Entries
  /-- The path of the last header. -/
  header : Option Path

/-- What the statements say together with one more, unless it clashes with them. -/
def Draft.add (draft : Draft) : Statement → Option Draft
  | .blank => some draft
  | .assignment path node =>
    let entries :=
      match draft.header with
      | none => draft.entries.enter node path.last path.leading
      | some header =>
        draft.entries.reach (Entries.enterBelow node path.last path.leading header.last)
          header.leading
    entries.map fun entries => { draft with entries }
  | .table path span =>
    (draft.entries.reach (Entries.headTable span path.last) path.leading).map fun entries =>
      ⟨entries, some path⟩
  | .row path span =>
    (draft.entries.reach (Entries.headRow span path.last) path.leading).map fun entries =>
      ⟨entries, some path⟩

/-- Reads the statements that are left. -/
def readFrom (draft : Draft) (chars : List Char) : Except Fault Entries :=
  have _blank := length_skipBlank_le chars
  match _ : skipBlank chars with
  | [] => .ok draft.entries
  | first :: behind =>
    match statement (first :: behind) with
    | .error fault => .error fault
    | .ok ⟨next, rest, _shorter⟩ =>
      match draft.add next with
      | none => .error (.here (first :: behind))
      | some draft => readFrom draft rest
termination_by chars.length
decreasing_by grind

/-- Reads a **document**; a byte order mark in front of it is passed over. -/
def read (document : List Char) : Except Fault Entries :=
  readFrom ⟨[], none⟩ (if document.head? = some '\ufeff' then document.drop 1 else document)

end Toml

end CallForest
