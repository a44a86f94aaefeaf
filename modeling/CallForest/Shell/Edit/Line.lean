import CallForest.Shell.Edit.Script
import CallForest.Text.Octets

/-! # Editing lines

Each line is given to all commands of a script in turn and then printed. A line may become several
rows, and lines may be kept for later ones.

* `Shell.Edit.Progress`: the lines that are being edited.
* `Shell.Edit.Progress.act`: does what a command says.
* `Shell.Edit.run`: edits lines. -/

namespace CallForest

namespace Shell

namespace Edit

/-- How a row ends. -/
inductive RowEnd where
  /-- It has an end. -/
  | present
  /-- It has an end if another row follows. -/
  | owed
  /-- It has none. -/
  | absent
  deriving DecidableEq

/-- The end of a row, which is `ended` unless it is the last one of a text without an end. -/
def RowEnd.of (ended : Bool) : RowEnd := if ended then .present else .owed

/-- A row of a text. -/
structure Row where
  /-- What is in it. -/
  text : Octets
  /-- The character that ends it. -/
  mark : Char
  /-- How it ends. -/
  ending : RowEnd

/-- Rows one behind the other. -/
abbrev Rows := List Row

/-- Whether an end is behind rows if another row follows. -/
def Rows.isOwed (rows : Rows) : Bool := rows.getLast?.any (·.ending = .owed)

/-- The text of rows. -/
def Rows.text : Rows → Octets
  | [] => []
  | row :: rest =>
    let shown := row.ending = .present || row.ending = .owed && !rest.isEmpty
    row.text ++ (if shown then [row.mark] else []) ++ Rows.text rest

/-- What lines are edited in. -/
structure Setting where
  /-- Whether lines are printed only by commands. -/
  quiet : Bool
  /-- The character that ends lines. -/
  mark : Char
  /-- How wide rows are that are spelt, if no width is given. -/
  width : Nat
  /-- Whether the file of the output is the output. -/
  shared : Bool
  /-- What a file holds before the lines are edited. -/
  content : Octets → Octets
  /-- The files that the lines are from, behind the numbers of their first lines, the last file
  first. -/
  origins : List (Nat × Octets)
  /-- The lines that have no end in their files. -/
  unended : List Nat

/-- The lines that are being edited. -/
structure Progress where
  /-- The line. -/
  line : Octets
  /-- Whether it has an end. -/
  lineEnded : Bool
  /-- Its number. -/
  number : Nat
  /-- The lines behind it. -/
  rest : List Octets
  /-- The lines that have no end. -/
  unended : List Nat
  /-- What has been kept. -/
  kept : Octets
  /-- Whether it has an end. -/
  keptEnded : Bool
  /-- The expression that was used last. -/
  used : Option Regular
  /-- Whether something has been replaced in the line. -/
  replaced : Bool
  /-- What has been printed, the last row first. -/
  printed : Rows
  /-- What is printed behind the line, the last row first. -/
  appended : Rows
  /-- What has been written to files, the last row first. -/
  saved : List (Octets × Row)
  /-- The rows of lines that have been begun, by the places of their commands, with their ends. -/
  begun : List (Nat × Option Nat)
  /-- What is left of files that are read line by line. -/
  readings : List (Octets × Octets)
  /-- The character that ends lines. -/
  mark : Char
  /-- The status if the line is the last one. -/
  status : Option Nat

/-! ## Choosing lines -/

/-- The progress with the expression that is used, the one that was used last if none is given. -/
def Progress.use (progress : Progress) (expression : Option Regular) : Progress :=
  { progress with used := expression.orElse fun _ => progress.used }

/-- Whether an address chooses the line. -/
def Progress.chosenBy (progress : Progress) : Address → Bool × Progress
  | .line number => (progress.number = number, progress)
  | .every first step => (first ≤ progress.number && (progress.number - first) % step = 0, progress)
  | .last => (progress.rest.isEmpty, progress)
  | .pattern expression folded =>
    let progress := progress.use expression
    (progress.used.any fun expression =>
      (expression.search folded (fun _ _ => true) [] progress.line).isSome, progress)
  | .behind _ | .multiple _ => (false, progress)

/-- The number of the line that ends a row of lines which begins with the line, if it is known. -/
def Progress.limit (progress : Progress) : Address → Option Nat
  | .line number => some number
  | .behind count => some (progress.number + count)
  | .multiple step => some ((progress.number / step + 1) * step)
  | _ => none

/-- Whether a command is for the line, with the rows of lines as they are behind it. -/
def Progress.chooses (progress : Progress) (place : Nat) (step : Step) : Bool × Progress :=
  match step.first, step.last with
  | none, _ => (true, progress)
  | some first, none => progress.chosenBy first
  | some first, some ending =>
    let others := progress.begun.filter (·.1 ≠ place)
    match progress.begun.lookup place with
    | some (some limit) =>
      let progress :=
        if limit ≤ progress.number then { progress with begun := others } else progress
      if limit < progress.number then progress.chosenBy first else (true, progress)
    | some none =>
      let (ends, progress) := progress.chosenBy ending
      (true, if ends then { progress with begun := others } else progress)
    | none =>
      let (begins, progress) := progress.chosenBy first
      let limit := progress.limit ending
      let alone := limit.any (· ≤ progress.number) || (progress.rest.isEmpty && limit.isNone)
      (begins,
        if !begins || alone then progress else { progress with begun := (place, limit) :: others })

/-! ## Replacing -/

/-- A character after a change. -/
def Casing.apply : Casing → Char → Char
  | .plain, character => character
  | .upper, character => character.toUpper
  | .lower, character => character.toLower

/-- A text that is being put together. -/
structure Filling where
  /-- The text, the last character first. -/
  text : Octets
  /-- How characters are changed. -/
  casing : Casing
  /-- How the next one is changed in place of that. -/
  single : Option Casing

/-- Adds a character. -/
def Filling.add (filling : Filling) (character : Char) : Filling :=
  let casing := filling.single.getD filling.casing
  { filling with text := casing.apply character :: filling.text, single := none }

/-- What is put in place of a match. -/
def filled (found : Regular.Found) (pieces : List Piece) : Octets :=
  let filling := pieces.foldl (fun filling piece =>
    match piece with
    | .octet value => filling.add value
    | .group 0 => found.piece.foldl Filling.add filling
    | .group number => ((found.groups.lookup number).getD []).foldl Filling.add filling
    | .casing casing => { filling with casing, single := none }
    | .single casing => { filling with single := some casing }) (⟨[], .plain, none⟩ : Filling)
  filling.text.reverse

/-- Replaces matches of an expression behind the front of a line, the next one of which has a
number, at most `fuel` of them. Gives the text, and whether anything is replaced. -/
def substitute (expression : Regular) (substitution : Substitution) :
    Nat → Nat → Bool → Octets → Octets → Octets × Bool
  | 0, _, _, _, rest => (rest, false)
  | fuel + 1, number, behindMatch, front, rest =>
    match expression.search substitution.folded (fun _ _ => true) front rest with
    | none => (rest, false)
    | some found =>
      let between := found.front.drop front.length
      let barred := behindMatch && found.piece.isEmpty && between.isEmpty
      let first := substitution.first.getD 1
      let replaces := !barred && (number = first || substitution.all && first ≤ number)
      let put := if replaces then filled found substitution.pieces else found.piece
      if replaces && !substitution.all then (between ++ put ++ found.behind, true)
      else
        let number := if barred then number else number + 1
        match found.piece, found.behind with
        | [], [] => (between ++ put, replaces)
        | [], next :: behind =>
          let (text, more) :=
            substitute expression substitution fuel number false (found.front ++ [next]) behind
          (between ++ put ++ next :: text, replaces || more)
        | piece, behind =>
          let (text, more) :=
            substitute expression substitution fuel number true (found.front ++ piece) behind
          (between ++ put ++ text, replaces || more)

/-! ## Spelling -/

/-- How a character is spelt. -/
def spelt (character : Char) : Octets :=
  let named := [('\x07', 'a'), ('\x08', 'b'), ('\x0c', 'f'), ('\n', 'n'), ('\r', 'r'), ('\t', 't'),
    ('\x0b', 'v'), ('\\', '\\')]
  match named.lookup character with
  | some letter => ['\\', letter]
  | none =>
    if 32 ≤ character.toNat && character.toNat < 127 then [character]
    else
      let digits := Nat.toDigits 8 character.toNat
      '\\' :: List.replicate (3 - digits.length) '0' ++ digits

/-- A line with its characters spelt, in rows of a width with a mark behind each. -/
def spellLine (width : Nat) (mark : Char) (line : Octets) : Octets :=
  let (text, _) := line.foldl (fun (text, used) character =>
    let piece := spelt character
    if 0 < width && width - 1 < used + piece.length then
      (text ++ '\\' :: mark :: piece, piece.length)
    else (text ++ piece, used + piece.length)) (([], 0) : Octets × Nat)
  text ++ ['$']

/-! ## Commands -/

/-- The path of the output. -/
def outputPath : Octets := "/dev/stdout".toList

/-- The path of the stream for reports. -/
def reportPath : Octets := "/dev/stderr".toList

/-- How the line goes on behind a command. -/
inductive Course where
  /-- The next command follows. -/
  | on
  /-- The commands behind a label follow. -/
  | jump (name : Octets)
  /-- The commands behind a block follow. -/
  | skip
  /-- The line is done, and is printed. -/
  | done
  /-- The line is done, and is left out. -/
  | dropped
  /-- What is left of the line is given to all commands again. -/
  | again

namespace Progress

/-- Prints a row. -/
def print (progress : Progress) (row : Octets) : Progress :=
  { progress with printed := ⟨row, progress.mark, .present⟩ :: progress.printed }

/-- Prints a text with an end, or nothing. -/
def printText (progress : Progress) (text : Octets) : Progress :=
  if text.isEmpty then progress else progress.print text.dropLast

/-- Prints a text behind the line, which has an end then even if the text is empty. -/
def append (progress : Progress) (text : Octets) : Progress :=
  { progress with appended := ⟨text, progress.mark, .absent⟩ :: progress.appended }

/-- Prints the line. -/
def printLine (progress : Progress) : Progress :=
  let row : Row := ⟨progress.line, progress.mark, .of progress.lineEnded⟩
  { progress with printed := row :: progress.printed }

/-- Prints what is to be printed behind the line. -/
def finish (progress : Progress) : Progress :=
  { progress with printed := progress.appended ++ progress.printed, appended := [] }

/-- Writes a text to a file, or prints it if that is what the file is. -/
def save (progress : Progress) (shared : Bool) (path row : Octets) : Progress :=
  let row : Row := ⟨row, progress.mark, .of progress.lineEnded⟩
  if shared && path = outputPath then { progress with printed := row :: progress.printed }
  else { progress with saved := (path, row) :: progress.saved }

/-- The first row of the line. -/
def row (progress : Progress) : Octets := progress.line.takeWhile (· ≠ progress.mark)

/-- Prints the first row of the line. -/
def printRow (progress : Progress) : Progress :=
  if progress.row.length = progress.line.length then progress.printLine
  else { progress with printed := ⟨progress.row, progress.mark, .present⟩ :: progress.printed }

/-- Prints the next line of a file behind the line. -/
def appendLine (progress : Progress) (content : Octets → Octets) (path : Octets) : Progress :=
  let left := (progress.readings.lookup path).getD (content path)
  let line := left.takeWhile (· ≠ progress.mark)
  let line := left.take (line.length + 1)
  let readings := (path, left.drop line.length) :: progress.readings.filter (·.1 ≠ path)
  { (if line.isEmpty then progress else progress.append line) with readings }

/-- Comes to a line with some lines behind it. -/
def reach (progress : Progress) (line : Octets) (rest : List Octets) : Progress :=
  { progress with
    line, lineEnded := !progress.unended.contains (progress.number + 1)
    number := progress.number + 1, rest, replaced := false }

/-- Comes to the next line, which is put behind some of what there is, or ends. -/
def advance (progress : Progress) (put : Octets → Octets) : Progress × Course :=
  match progress.rest with
  | [] => (progress, .done)
  | next :: rest => (progress.finish.reach (put next) rest, .on)

/-- Replaces what an expression matches. -/
def replace (progress : Progress) (shared : Bool) (substitution : Substitution) : Progress :=
  let progress := progress.use substitution.expression
  let (line, replaced) :=
    substitute (progress.used.getD .empty) substitution (progress.line.length + 2) 1
    false [] progress.line
  if !replaced then progress
  else
    let progress := { progress with line, replaced := true }
    let progress := if substitution.shown then progress.printLine else progress
    substitution.saved.elim progress fun path => progress.save shared path line

/-- Does what a command says. -/
def act (setting : Setting) (progress : Progress) (last : Bool) : Action → Progress × Course
  | .substitute substitution => (progress.replace setting.shared substitution, .on)
  | .exchange pairs =>
    let line := progress.line.map fun character => (pairs.lookup character).getD character
    ({ progress with line }, .on)
  | .delete => (progress, .dropped)
  | .deleteRow =>
    if progress.row.length = progress.line.length then (progress, .dropped)
    else ({ progress with line := progress.line.drop (progress.row.length + 1) }, .again)
  | .print => (progress.printLine, .on)
  | .printRow => (progress.printRow, .on)
  | .spell width =>
    (progress.print (spellLine (width.getD setting.width) progress.mark progress.line), .on)
  | .quit status silent =>
    let progress := { progress with status := some status }
    if silent then (progress, .dropped) else (progress.append [], .done)
  | .number => (progress.print (Octets.ofNat progress.number), .on)
  | .insert text => (progress.printText text, .on)
  | .append text => (progress.append text, .on)
  | .change text => (if last then progress.printText text else progress, .dropped)
  | .read path => (progress.append (setting.content path), .on)
  | .readFirst path =>
    let row : Row := ⟨setting.content path, progress.mark, .absent⟩
    ({ progress with printed := row :: progress.printed }, .on)
  | .readLine path => (progress.appendLine setting.content path, .on)
  | .name =>
    let origin := setting.origins.find? fun (first, _) => first ≤ progress.number
    (progress.print (origin.elim ['-'] Prod.snd), .on)
  | .save first path =>
    (progress.save setting.shared path (if first then progress.row else progress.line), .on)
  | .next =>
    if progress.rest.isEmpty then progress.advance id
    else (if setting.quiet then progress else progress.printLine).advance id
  | .join => progress.advance fun next => progress.line ++ progress.mark :: next
  | .keep joined =>
    let kept :=
      if joined then progress.kept ++ progress.mark :: progress.line else progress.line
    ({ progress with kept, keptEnded := progress.lineEnded }, .on)
  | .recall joined =>
    let line :=
      if joined then progress.line ++ progress.mark :: progress.kept else progress.kept
    ({ progress with line, lineEnded := progress.keptEnded }, .on)
  | .swap =>
    ({ progress with
        line := progress.kept, lineEnded := progress.keptEnded
        kept := progress.line, keptEnded := progress.lineEnded }, .on)
  | .clear => ({ progress with line := [] }, .on)
  | .nothing | .block | .close | .label _ => (progress, .on)
  | .jump condition name =>
    if condition = .always || progress.replaced = decide (condition = .replaced) then
      ({ progress with replaced := progress.replaced && condition = .always }, .jump name)
    else ({ progress with replaced := progress.replaced && condition ≠ .kept }, .on)

end Progress

/-! ## Scripts -/

/-- The commands of a script with their places. -/
abbrev Script := List (Step × Nat)

/-- The commands behind the end of a block, within which some others are open. -/
def behindBlock : Nat → Script → Script
  | _, [] => []
  | depth, (step, _) :: steps =>
    match step.action, depth with
    | .close, 0 => steps
    | .close, depth + 1 => behindBlock depth steps
    | .block, depth => behindBlock (depth + 1) steps
    | _, depth => behindBlock depth steps

/-- Whether a command is a label of a name. -/
def Step.isLabel (name : Octets) (step : Step) : Bool :=
  match step.action with
  | .label other => other = name
  | _ => false

/-- The commands behind a label. A label without a name is the end of the script. -/
def behindLabel (script : Script) (name : Octets) : Script :=
  if name.isEmpty then [] else script.dropWhile fun (step, _) => !step.isLabel name

/-- A label that is jumped to but is not there. -/
def missingLabel? (steps : List Step) : Option Octets :=
  steps.findSome? fun step =>
    match step.action with
    | .jump _ name => if name.isEmpty || steps.any (Step.isLabel name) then none else some name
    | _ => none

/-- Gives the line to commands of a script, at most `fuel` of them. -/
def Progress.apply (setting : Setting) (script : Script) :
    Nat → Progress → Script → Progress × Course
  | 0, progress, _ | _, progress, [] => (progress, .done)
  | fuel + 1, progress, (step, place) :: steps =>
    let (chosen, progress) := progress.chooses place step
    let rowEnds := step.last.isNone || (progress.begun.lookup place).isNone
    let (progress, course) :=
      if chosen != step.negated then progress.act setting rowEnds step.action
      else (progress, if step.action matches .block then .skip else .on)
    match course with
    | .on => Progress.apply setting script fuel progress steps
    | .jump name => Progress.apply setting script fuel progress (behindLabel script name)
    | .skip => Progress.apply setting script fuel progress (behindBlock 0 steps)
    | course => (progress, course)

/-- How many commands are done at most to a line. -/
def commandLimit : Nat := 1000000

/-- Edits the line and those behind it, at most `fuel` times. -/
def editLines (setting : Setting) (script : Script) : Nat → Progress → Progress
  | 0, progress => progress
  | fuel + 1, progress =>
    let (progress, course) := progress.apply setting script commandLimit script
    let progress :=
      if !setting.quiet && (course matches .done) then progress.printLine else progress
    let progress := progress.finish
    match course, progress.status, progress.rest with
    | .again, none, _ => editLines setting script fuel progress
    | _, none, next :: rest => editLines setting script fuel (progress.reach next rest)
    | _, _, _ => progress

/-- What editing lines leaves behind. -/
structure Edited where
  /-- What is printed. -/
  printed : Rows
  /-- What is written to files. -/
  saved : List (Octets × Rows)
  /-- The status, if the lines were left. -/
  status : Option Nat
  /-- How many characters of the text have not been looked at. -/
  left : Nat

/-- The rows of lines that have begun before the first line. -/
def begunBefore (script : Script) : List (Nat × Option Nat) :=
  script.filterMap fun (step, place) =>
    match step.first with
    | some (.line 0) => some (place, none)
    | _ => none

/-- **Edits lines** of a text. -/
def run (setting : Setting) (steps : List Step) (text : Octets) : Edited :=
  let files := (steps.flatMap Step.files).eraseDups
  let ended := text.getLast? = some setting.mark
  match (if ended then text.dropLast else text).splitOn setting.mark with
  | [] => ⟨[], files.map (·, []), none, 0⟩
  | first :: rest =>
    if text.isEmpty then ⟨[], files.map (·, []), none, 0⟩
    else
      let script := steps.zipIdx
      let unended := if ended then setting.unended else (rest.length + 1) :: setting.unended
      let start : Progress := {
        line := first, lineEnded := !unended.contains 1, number := 1, rest, unended
        kept := [], keptEnded := true, used := none, replaced := false
        printed := [], appended := [], saved := [], begun := begunBefore script, status := none
        readings := [], mark := setting.mark }
      let progress := editLines setting script (commandLimit + rest.length) start
      let savedTo := fun (path : Octets) =>
        ((progress.saved.filter (·.1 = path)).map Prod.snd).reverse
      let left := progress.rest.foldl (fun sum line => sum + line.length + 1) 0
      ⟨progress.printed.reverse, files.map fun path => (path, savedTo path), progress.status,
        if ended then left else left - 1⟩

end Edit

end Shell

end CallForest
