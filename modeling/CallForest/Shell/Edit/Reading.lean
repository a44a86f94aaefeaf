import CallForest.Shell.Edit.Script
import CallForest.Shell.Numeral

/-! # Reading scripts that edit lines

A script is read character by character. A fault is placed by the number of characters that have
been read.

* `Shell.Edit.ScriptM`: what is left of a script, and the files that it writes to.
* `Shell.Edit.readSteps`: reads the commands of a script.
* `Shell.Edit.lacksExpression`: whether an expression is left out that cannot be. -/

namespace CallForest

namespace Shell

namespace Edit

/-! ## Characters -/

/-- What is left of a script, or a fault with what is left behind it, and the files that are to be
written to. -/
abbrev ScriptM := StateT Octets (ExceptT (ScriptFault × Nat) (StateM (List Octets)))

/-- Gives up. -/
def refuse {α : Type} (fault : ScriptFault) : ScriptM α := do throw (fault, (← get).length)

/-- Gives up behind the next character. -/
def refuseBehind {α : Type} (fault : ScriptFault) : ScriptM α := do
  throw (fault, (← get).length - 1)

/-- Takes characters as long as something holds of them. -/
def takeWhile (holds : Char → Bool) : ScriptM Octets := do
  let rest ← get
  set (rest.dropWhile holds)
  return rest.takeWhile holds

/-- Takes a character if it is a given one. -/
def takeIf (character : Char) : ScriptM Bool := do
  match ← get with
  | first :: behind =>
    if first = character then set behind
    return first = character
  | [] => return false

/-- Passes over blanks. -/
def skipBlanks : ScriptM Unit := do
  let _ ← takeWhile fun character => character = ' ' || character = '\t'

/-- Reads digits, perhaps none, as a number. -/
def readNumber : ScriptM Nat := do
  return digitsValue 10 (← takeWhile Char.isDigit)

/-- Reads the name of a file, up to the end of the line. -/
def readPath : ScriptM Octets := do
  skipBlanks
  let path ← takeWhile (· ≠ '\n')
  if path.isEmpty then refuse .noFile else return path

/-- Reads the name of a file that is to be written to. -/
def readWritten : ScriptM Octets := do
  let path ← readPath
  modifyThe (List Octets) (· ++ [path])
  return path

/-- Reads the name of a label. -/
def readLabel : ScriptM Octets := do
  skipBlanks
  takeWhile fun character => !isSpace character && character ≠ ';' && character ≠ '\x7d'

/-! ## Texts between separators -/

/-- Where one is in a list between brackets. -/
inductive ListPlace where
  /-- Behind the opening bracket. -/
  | head
  /-- Behind the opening bracket and a circumflex. -/
  | negated
  /-- Between members. -/
  | among
  /-- Behind an opening bracket that may begin a name. -/
  | opening
  /-- In a name up to a mark. -/
  | name (mark : Char)
  /-- Behind the mark of a name. -/
  | finish (mark : Char)

/-- Where one is behind a character of a list, if the list goes on. -/
def ListPlace.next? (place : ListPlace) (character : Char) : Option ListPlace :=
  let isMark := ['.', ':', '='].contains character
  match place, character with
  | .head, '^' => some .negated
  | .head, ']' | .negated, ']' => some .among
  | .among, ']' | .opening, ']' => none
  | .head, '[' | .negated, '[' | .among, '[' | .opening, '[' => some .opening
  | .head, _ | .negated, _ | .among, _ => some .among
  | .opening, character => some (if isMark then .name character else .among)
  | .name mark, character => some (if character = mark then .finish mark else .name mark)
  | .finish _, ']' => some .among
  | .finish mark, '[' => some (.finish mark)
  | .finish mark, _ => some (.name mark)

/-- The text of an expression up to a separator, and what is behind it, or what is left where it
breaks off. A separator behind a backslash is part of the text, and so is one in a list between
brackets, where one may be. -/
def expressionText (separator : Char) : Option ListPlace → Octets → Except Nat (Octets × Octets)
  | _, [] => .error 0
  | some place, first :: rest =>
    if first = '\n' then .error (rest.length + 1)
    else (expressionText separator (place.next? first) rest).map fun (text, behind) =>
      (first :: text, behind)
  | none, '\\' :: next :: rest =>
    (expressionText separator none rest).map fun (text, behind) =>
      if next = 'n' then ('\n' :: text, behind)
      else if next = '\n' || next = separator then (next :: text, behind)
      else ('\\' :: next :: text, behind)
  | none, first :: rest =>
    if first = separator then .ok ([], rest)
    else if first = '\n' then .error (rest.length + 1)
    else
      let place := if first = '[' then some ListPlace.head else none
      (expressionText separator place rest).map fun (text, behind) => (first :: text, behind)

/-- A text up to a separator, and what is behind it, or what is left where it breaks off. A
separator behind a backslash is part of the text. -/
def plainUpTo (separator : Char) : Octets → Except Nat (Octets × Octets)
  | [] => .error 0
  | '\\' :: next :: rest =>
    (plainUpTo separator rest).map fun (text, behind) =>
      if next = '\n' || next = separator && next ≠ '&' then (next :: text, behind)
      else ('\\' :: next :: text, behind)
  | first :: rest =>
    if first = separator then .ok ([], rest)
    else if first = '\n' then .error (rest.length + 1)
    else (plainUpTo separator rest).map fun (text, behind) => (first :: text, behind)

/-- Takes a text from what is left of a script. -/
def takeText (taken : Octets → Except Nat (Octets × Octets)) (fault : ScriptFault) :
    ScriptM Octets := do
  match taken (← get) with
  | .ok (text, behind) =>
    set behind
    return text
  | .error left => throw (fault, left)

/-! ## Characters behind backslashes -/

/-- The characters that stand for others behind a backslash. -/
def escapes : List (Char × Char) :=
  [('a', '\x07'), ('f', '\x0c'), ('n', '\n'), ('r', '\r'), ('t', '\t'), ('v', '\x0b')]

/-- The character whose number is written in at most `most` digits at the head of a text, and how
many digits there are. -/
def numbered? (radix most : Nat) (text : Octets) : Option (Char × Nat) :=
  let digits := (digitsOf radix text).1.take most
  if digits.isEmpty then none
  else some (Char.ofNat (digitsValue radix digits % 256), digits.length)

/-- The control character of a character. -/
def controlOf (character : Char) : Char := Char.ofNat (character.toUpper.toNat ^^^ 64)

/-- The character that a text behind a backslash stands for by its number or as a control character,
and how many characters of the text say so. -/
def coded? : Octets → Option (Char × Nat)
  | 'd' :: rest => (numbered? 10 3 rest).map fun (character, count) => (character, count + 1)
  | 'o' :: rest => (numbered? 8 3 rest).map fun (character, count) => (character, count + 1)
  | 'x' :: rest => (numbered? 16 2 rest).map fun (character, count) => (character, count + 1)
  | ['c'] => some ('\\', 1)
  | 'c' :: '\\' :: _ => some (controlOf '\\', 3)
  | 'c' :: character :: _ => some (controlOf character, 2)
  | _ => none

/-- Whether a control character is a backslash that does not stand for itself. -/
def nestsControl : Octets → Bool
  | '\\' :: 'c' :: '\\' :: '\\' :: rest => nestsControl rest
  | '\\' :: 'c' :: '\\' :: _ => true
  | '\\' :: _ :: rest => nestsControl rest
  | _ :: rest => nestsControl rest
  | [] => false

/-- Refuses a text in which a control character is a backslash that does not stand for itself. -/
def checkControls (text : Octets) : ScriptM Unit :=
  if nestsControl text then refuse .nestedControl else return ()

/-- A text behind some characters that are passed over, with the characters in it that backslashes
stand for, where `known` characters stand for others. What else is behind a backslash is `kept` with
it or without it. -/
def decoded (known : List (Char × Char)) (kept : Char → Octets) : Nat → Octets → Octets
  | _, [] => []
  | passed + 1, _ :: rest => decoded known kept passed rest
  | 0, '\\' :: rest =>
    match coded? rest, rest.head? with
    | some (character, count), _ => character :: decoded known kept count rest
    | none, none => ['\\']
    | none, some next =>
      ((known.lookup next).map ([·])).getD (kept next) ++ decoded known kept 1 rest
  | 0, first :: rest => first :: decoded known kept 0 rest

/-! ## Addresses -/

/-- Reads the expression of a text, which must have some groups. It is left out if the text is
empty. -/
def readExpression (extended byRows folded : Bool) (groups : Nat) (text : Octets) :
    ScriptM (Option Regular) := do
  if text.isEmpty then
    if byRows || folded then refuse .emptyOptions else return none
  else
    checkControls text
    let dialect : Regular.Dialect := ⟨extended, true, byRows⟩
    match Regular.read dialect (decoded escapes (['\\', ·]) 0 text) with
    | .ok (expression, odd) =>
      if expression.groupCount < groups then refuse (.noGroup groups)
      else
        match odd with
        | [] => return some expression
        | oddity :: _ => refuse (.odd oddity)
    | .error fault => refuse (.notExpression fault)

/-- Reads an expression that chooses lines, and the options behind it. -/
def readPattern (extended : Bool) (separator : Char) : ScriptM Address := do
  let text ← takeText (expressionText separator none) .openAddress
  let options ← takeWhile fun character => [' ', '\t', 'I', 'M'].contains character
  let folded := options.contains 'I'
  return .pattern (← readExpression extended (options.contains 'M') folded 0 text) folded

/-- Reads what chooses a line, if there is anything. -/
def readAddress (extended : Bool) : ScriptM (Option Address) := do
  match ← get with
  | '$' :: rest =>
    set rest
    return some .last
  | '/' :: rest =>
    set rest
    return some (← readPattern extended '/')
  | '\\' :: separator :: rest =>
    set rest
    return some (← readPattern extended separator)
  | mark :: rest =>
    if mark.isDigit then
      let number ← readNumber
      skipBlanks
      if ← takeIf '~' then
        skipBlanks
        let step ← readNumber
        return some (if step = 0 then .line number else .every number step)
      else return some (.line number)
    else if mark = '+' || mark = '~' then
      set rest
      skipBlanks
      let count ← readNumber
      if count = 0 then return some (.line 0)
      else return some (if mark = '+' then .behind count else .multiple count)
    else return none
  | [] => return none

/-- Reads the end of a row of lines. -/
def readLast (extended : Bool) : ScriptM (Option Address) := do
  if ← takeIf ',' then
    skipBlanks
    match ← readAddress extended with
    | some ending => return some ending
    | none => refuseBehind .badComma
  else return none

/-- Reads the lines that a command is for. -/
def readLines (extended : Bool) : ScriptM (Option Address × Option Address) := do
  let first ← readAddress extended
  match first with
  | none => return (none, none)
  | some (.behind _) | some (.multiple _) => refuse .badCount
  | some _ =>
    skipBlanks
    let last ← readLast extended
    skipBlanks
    match first, last with
    | some (.line 0), some (.pattern ..) => return (first, last)
    | some (.line 0), none =>
      if (← get).head? = some 'r' then return (first, last) else refuseBehind .lineZero
    | some (.line 0), some _ => refuseBehind .lineZero
    | _, _ => return (first, last)

/-! ## Substitutions and exchanges -/

/-- What a character behind a backslash puts in place of something. -/
def Piece.ofEscaped (character : Char) : Piece :=
  match character with
  | 'U' => .casing .upper
  | 'L' => .casing .lower
  | 'E' => .casing .plain
  | 'u' => .single .upper
  | 'l' => .single .lower
  | character =>
    if character.isDigit then .group (character.toNat - '0'.toNat)
    else .octet ((escapes.lookup character).getD character)

/-- The pieces of what is put in place of something, behind some characters that are passed over. -/
def piecesOf : Nat → Octets → List Piece
  | _, [] => []
  | passed + 1, _ :: rest => piecesOf passed rest
  | 0, '\\' :: rest =>
    match coded? rest, rest.head? with
    | some (character, count), _ => .octet character :: piecesOf count rest
    | none, none => [.octet '\\']
    | none, some next => .ofEscaped next :: piecesOf 1 rest
  | 0, '&' :: rest => .group 0 :: piecesOf 0 rest
  | 0, first :: rest => .octet first :: piecesOf 0 rest

/-- Reads the options of a substitution, at most `fuel` of them. -/
def readOptions : Nat → Substitution → ScriptM Substitution
  | 0, substitution => return substitution
  | fuel + 1, substitution => do
    match ← get with
    | 'g' :: rest =>
      set rest
      if substitution.all then refuse (.repeatedOption "\x60g'")
      else readOptions fuel { substitution with all := true }
    | 'p' :: rest =>
      set rest
      if substitution.shown then refuse (.repeatedOption "\x60p'")
      else readOptions fuel { substitution with shown := true }
    | 'i' :: rest | 'I' :: rest =>
      set rest
      readOptions fuel { substitution with folded := true }
    | 'm' :: rest | 'M' :: rest =>
      set rest
      readOptions fuel { substitution with byRows := true }
    | ' ' :: rest | '\t' :: rest =>
      set rest
      readOptions fuel substitution
    | 'w' :: rest =>
      set rest
      return { substitution with saved := some (← readWritten) }
    | first :: rest =>
      if first.isDigit then
        if substitution.first.isSome then refuseBehind (.repeatedOption "number")
        else
          let number ← readNumber
          if number = 0 then refuse .matchZero
          else readOptions fuel { substitution with first := some number }
      else if first = '\n' || first = ';' then
        set rest
        return substitution
      else if first = '\x7d' || first = '#' then return substitution
      else
        set rest
        refuse .badOption
    | [] => return substitution

/-- Reads a substitution. -/
def readSubstitution (extended : Bool) : ScriptM Action := do
  match ← get with
  | [] => refuse (.open 's')
  | separator :: rest =>
    set rest
    let text ← takeText (expressionText separator none) (.open 's')
    let put ← takeText (plainUpTo separator) (.open 's')
    checkControls put
    let pieces := piecesOf 0 put
    let size := (← get).length
    let substitution ←
      readOptions (size + 1) ⟨none, false, false, pieces, none, false, false, none⟩
    let greatest := pieces.foldl (fun greatest piece =>
      match piece with
      | .group number => max greatest number
      | _ => greatest) 0
    let expression ←
      readExpression extended substitution.byRows substitution.folded greatest text
    return .substitute { substitution with expression }

/-- Reads an exchange of characters. -/
def readExchange : ScriptM Action := do
  match ← get with
  | [] => refuse (.open 'y')
  | separator :: rest =>
    set rest
    let source ← takeText (plainUpTo separator) (.open 'y')
    checkControls source
    let target ← takeText (plainUpTo separator) (.open 'y')
    checkControls target
    let pairs := (decoded escapes ([·]) 0 source, decoded escapes ([·]) 0 target)
    if pairs.1.length = pairs.2.length then return .exchange (pairs.1.zip pairs.2)
    else refuse .lengths

/-! ## Commands -/

/-- The text at the head of a script up to the end of a line that is not behind a backslash, and
what is behind it. -/
def textLine : Octets → Octets × Octets
  | [] => ([], [])
  | '\n' :: rest => ([], rest)
  | '\\' :: next :: rest =>
    let (text, behind) := textLine rest
    ('\\' :: next :: text, behind)
  | first :: rest => let (text, behind) := textLine rest; (first :: text, behind)

/-- Reads the text of a command, up to the end of its line. There may be none behind a backslash; a
character other than the end of a line has no meaning there. -/
def readText : ScriptM Octets := do
  skipBlanks
  let script ← get
  let (front, text, behind) ← match script with
    | [] => refuse .lacksText
    | ['\\'] => pure ([], [], [])
    | '\\' :: '\n' :: rest => pure (['\n'], textLine rest)
    | '\\' :: first :: rest => pure ([first, '\n'], textLine rest)
    | rest => pure (['\n'], textLine rest)
  set behind
  let text := front.dropLast ++ text ++ front.drop (front.length - 1)
  checkControls text
  return decoded escapes ([·]) 0 text

/-- Whether something else can be on the line of a command behind a sign. -/
def Action.takesLine : Action → Bool
  | .insert _ | .append _ | .change _ | .read _ | .readLine _ | .save _ _ | .label _ | .jump _ _
  | .block => true
  | .substitute _ => true
  | _ => false

/-- Reads the number behind a command, if there is one. -/
def readCount? : ScriptM (Option Nat) := do
  skipBlanks
  if (← get).head?.any Char.isDigit then return some (← readNumber) else return none

/-- Reads what is done to the lines that have been chosen. -/
def readAction (extended : Bool) (first last : Option Address) : ScriptM Action := do
  match ← get with
  | [] => refuse .missing
  | command :: rest =>
    set rest
    match command with
    | 's' => readSubstitution extended
    | 'y' => readExchange
    | 'd' => return .delete
    | 'D' => return .deleteRow
    | 'p' => return .print
    | 'P' => return .printRow
    | 'l' => return .spell (← readCount?)
    | '=' => return .number
    | 'n' => return .next
    | 'N' => return .join
    | 'h' => return .keep false
    | 'H' => return .keep true
    | 'g' => return .recall false
    | 'G' => return .recall true
    | 'x' => return .swap
    | 'z' => return .clear
    | 'v' =>
      let _ ← readLabel
      return .nothing
    | 'q' | 'Q' =>
      if last.isSome then refuse .oneAddress
      else return .quit (((← readCount?).getD 0) % 256) (command = 'Q')
    | 'a' => return .append (← readText)
    | 'i' => return .insert (← readText)
    | 'c' => return .change (← readText)
    | 'r' =>
      let path ← readPath
      return if (first, last) matches (some (.line 0), none) then .readFirst path else .read path
    | 'R' => return .readLine (← readPath)
    | 'F' => return .name
    | 'w' => return .save false (← readWritten)
    | 'W' => return .save true (← readWritten)
    | '\x7b' => return .block
    | '\x7d' => return .close
    | 'b' => return .jump .always (← readLabel)
    | 't' => return .jump .replaced (← readLabel)
    | 'T' => return .jump .kept (← readLabel)
    | ':' =>
      if first.isSome then refuse .labelAddress
      else
        let name ← readLabel
        if name.isEmpty then refuse .noLabel else return .label name
    | command => refuse (.unknown command)

/-- A block that is open. -/
structure OpenBlock where
  /-- The part of the script where it begins. -/
  part : Nat
  /-- How many characters of that part are behind its brace. -/
  left : Nat

/-- Reads the commands of a part of a script, at most `fuel` of them, the first one within some
blocks, of which the innermost one is the first. Gives them and the blocks that are open at the
end. -/
def readSteps (extended : Bool) (part : Nat) :
    Nat → List OpenBlock → ScriptM (List Step × List OpenBlock)
  | 0, blocks => return ([], blocks)
  | fuel + 1, blocks => do
    let _ ← takeWhile fun character => isSpace character || character = ';'
    if (← get).isEmpty then return ([], blocks)
    else
      let (first, last) ← readLines extended
      let negated ← takeIf '!'
      skipBlanks
      if negated && (← get).head? = some '!' then refuseBehind .negatedTwice
      if (← get).head? = some '#' then
        if first.isSome then refuseBehind .remarkAddress
        else
          let _ ← takeWhile (· ≠ '\n')
          readSteps extended part fuel blocks
      else
        let action ← readAction extended first last
        let first := if action matches .readFirst _ then some (.line 1) else first
        let inside ← match action with
          | .block => pure (⟨part, (← get).length⟩ :: blocks)
          | .close => if blocks.isEmpty then refuse .closedBlock else pure blocks.tail
          | _ => pure blocks
        if !action.takesLine then
          skipBlanks
          match ← get with
          | next :: _ => if !([';', '\n', '#', '\x7d'].contains next) then refuseBehind .extra
          | [] => pure ()
        let (steps, open?) ← readSteps extended part fuel inside
        return (⟨first, last, negated, action⟩ :: steps, open?)

/-! ## Expressions that are left out -/

/-- The expressions of a command, in their order. -/
def Step.expressions (step : Step) : List (Option Regular) :=
  let ofAddress := fun (address : Option Address) =>
    match address with
    | some (.pattern expression _) => [expression]
    | _ => []
  ofAddress step.first ++ ofAddress step.last ++
    match step.action with
    | .substitute substitution => [substitution.expression]
    | _ => []

/-- Whether the **first expression** of a script is left out. -/
def lacksExpression (steps : List Step) : Bool :=
  (steps.flatMap Step.expressions).head?.any Option.isNone

end Edit

end Shell

end CallForest
