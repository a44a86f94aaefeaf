import CallForest.Shell.Source

/-! # Reading words of shell scripts

A word ends where a blank or an operator stands outside quotes. What is within quotes, braces and
parentheses is read with the rules of the place where it stands: outside quotes, within double
quotes, within the braces of a parameter, in a document or in an arithmetic expression.

* `Shell.Setting`: the place where parts of a word stand.
* `Shell.Nested`: how commands within a word are read.
* `Shell.parts`, `Shell.readWord`: parts of a word, and words.
* `Shell.readDocuments`: the documents that begin behind a line. -/

namespace CallForest

namespace Shell

/-! ## Settings -/

/-- What ends the parts of a word. -/
inductive Ending where
  /-- A blank or an operator. -/
  | blank
  /-- A double quote. -/
  | quote
  /-- A closing brace. -/
  | brace
  /-- Two closing parentheses. -/
  | parentheses
  /-- The end of a document. -/
  | document
  deriving DecidableEq, Repr

/-- The place where parts of a word stand. -/
structure Setting where
  /-- What ends them. -/
  ending : Ending
  /-- Whether they are quoted. -/
  quoted : Bool
  /-- Whether they are in the braces of a parameter. -/
  braced : Bool
  /-- The end of the document that they are in. -/
  mark : Option EndMark
  /-- Whether nothing is expanded. -/
  literal : Bool
  deriving DecidableEq, Repr

namespace Setting

/-- The place of a word. -/
def word : Setting := ⟨.blank, false, false, none, false⟩

/-- The place of a word that is never expanded. -/
def literalWord : Setting := ⟨.blank, false, false, none, true⟩

/-- The place behind a double quote. -/
def behindQuote (setting : Setting) : Setting := { setting with ending := .quote, quoted := true }

/-- The place of an arithmetic expression. -/
def behindParentheses (setting : Setting) : Setting :=
  { setting with ending := .parentheses, quoted := true, braced := false }

/-- The place of the word of a parameter. -/
def behindBrace (quoted : Bool) (setting : Setting) : Setting :=
  { setting with ending := .brace, quoted, braced := true }

end Setting

/-- How commands within a word are read. -/
structure Nested where
  /-- Reads commands up to a closing parenthesis. -/
  enclosed : ReadM Command
  /-- Reads the commands of a text that has been cut out. -/
  whole : ReadM Command

/-! ## Ends -/

/-- Whether a character ends a word. -/
def isMeta (character : Char) : Bool :=
  [' ', '\t', '\n', '<', '>', '(', ')', ';', '&', '|'].contains character

/-- Whether the line of a mark comes next; it is passed over then. Tabs in front of a line are
passed over if the mark says so. -/
def passMark (mark : EndMark) : ReadM Bool := do
  let source ← get
  let rest := if mark.stripped then source.rest.dropWhile (· = '\t') else source.rest
  let line := rest.takeWhile (· ≠ '\n')
  if line = mark.text then
    set { source with rest := rest.drop (line.length + 1), line := source.line + 1 }
    return true
  else
    set { source with rest }
    return false

/-- Whether the document of a place ends at the start of a line. -/
def documentEnds (setting : Setting) : ReadM Bool :=
  match setting.mark with
  | none => return false
  | some mark => passMark mark

/-- Ends parts at the end of the source, if they may end there. -/
def endParts (setting : Setting) : ReadM Word :=
  match setting.ending with
  | .blank | .document => return []
  | .quote => refuse .openQuote
  | .brace => refuse (if setting.quoted && setting.mark.isNone then .openQuote else .openBraces)
  | .parentheses => refuse .openArithmetic

/-! ## Quotes -/

/-- The characters up to a single quote. -/
def singleQuoted : Nat → ReadM Word
  | 0 => refuse .openQuote
  | fuel + 1 => do
    match ← take? with
    | none => refuse .openQuote
    | some '\'' => return []
    | some character => return .octet character true :: (← singleQuoted fuel)

/-- The parts that a backslash and the character behind it make. -/
def escaped (setting : Setting) : Option Char → Word
  | none => [.octet '\\' true]
  | some character =>
    let special :=
      ['\\', '\x60', '$'].contains character ||
        (character = '"' && (setting.mark.isNone || setting.braced)) ||
        (character = '\x7d' && setting.braced)
    if setting.quoted && !special then [.octet '\\' true, .octet character true]
    else [.octet character true]

/-- The text up to a backquote. A backslash is kept unless it is in front of a backslash, a
backquote or a dollar sign, or within double quotes in front of one. -/
def backquoted (quoted : Bool) : Nat → ReadM Octets
  | 0 => refuse .openBackquote
  | fuel + 1 => do
    match ← next? with
    | none => refuse .openBackquote
    | some '\x60' => return []
    | some '\\' =>
      match ← take? with
      | none => refuse .openBackquote
      | some character =>
        let special := ['\\', '\x60', '$'].contains character || (quoted && character = '"')
        let more ← backquoted quoted fuel
        return if special then character :: more else '\\' :: character :: more
    | some character => return character :: (← backquoted quoted fuel)

/-- Reads commands of a text that has been cut out, whose lines are counted from one. -/
def readCutOut (nested : Nested) (text : Octets) : ReadM Command := do
  let source ← get
  set { source with rest := text, line := 1, pushed := none, waiting := [], active := [] }
  let body ← nested.whole
  modify fun inner => { source with documents := inner.documents, number := inner.number }
  return body

/-- Reads commands up to a closing parenthesis. -/
def readEnclosed (nested : Nested) : ReadM Command := do
  let source ← get
  set { source with pushed := none, waiting := [] }
  let body ← nested.enclosed
  modify fun inner =>
    { inner with pushed := none, waiting := source.waiting, quoteSeen := source.quoteSeen }
  return body

/-! ## Parameters -/

/-- Whether a character is a parameter by itself. -/
def isSpecial (character : Char) : Bool :=
  ['!', '?', '$', '#', '-', '*', '@'].contains character || character.isDigit

/-- Takes characters of a class. -/
def takeAll (inClass : Char → Bool) : Nat → ReadM Octets
  | 0 => return []
  | fuel + 1 => do
    match ← peek? with
    | some character =>
      if inClass character then
        let _ ← take?
        return character :: (← takeAll inClass fuel)
      else return []
    | none => return []

/-- The name of a parameter that begins with a letter or a digit. -/
def parameterName : ReadM Octets := do
  let fuel := (← get).rest.length
  match ← peek? with
  | some first =>
    if beginsName first then takeAll inName fuel
    else if first.isDigit then takeAll Char.isDigit fuel
    else return []
  | none => return []

/-- The kinds of fallback by the characters that ask for them. -/
def fallbackOf? : Char → Option Fallback
  | '-' => some .default
  | '=' => some .assign
  | '?' => some .complain
  | '+' => some .replace
  | _ => none

/-- What is said about a parameter in braces in front of its word. -/
inductive Modifier where
  /-- Nothing, and the brace is closed. -/
  | closed
  /-- Its length is asked for. -/
  | length
  /-- A fallback follows. -/
  | fallback (kind : Fallback) (orEmpty : Bool)
  /-- A pattern follows. -/
  | trim (side : Trim)
  /-- There is no such use. -/
  | meaningless

/-- Takes the next character that is no part of a line join. If that is the end of a line, it is not
counted. -/
def nextUncounted? : ReadM (Option Char) := do
  let _ ← peek?
  let source ← get
  let taken ← take?
  modify fun behind => { behind with line := source.line }
  return taken

/-- Reads what is said about a parameter behind its name. -/
def readModifier : ReadM Modifier := do
  match ← nextUncounted? with
  | some '\x7d' => return .closed
  | some ':' =>
    match ← nextUncounted? with
    | some character =>
      match fallbackOf? character with
      | some kind => return .fallback kind true
      | none => return .meaningless
    | none => return .meaningless
  | some '%' => return .trim ⟨false, ← nextIf '%'⟩
  | some '#' => return .trim ⟨true, ← nextIf '#'⟩
  | some character =>
    match fallbackOf? character with
    | some kind => return .fallback kind false
    | none => return .meaningless
  | none => return .meaningless

/-- Reads the name of a parameter behind an opening brace, and what is said about it. A number sign
is the parameter of this name, unless a parameter whose length is asked for follows. -/
def readName : ReadM (Octets × Modifier) := do
  match ← peek? with
  | some '#' =>
    let _ ← take?
    let name ← parameterName
    if name ≠ [] then
      return (name, if (← peek?) = some '\x7d' then .length else .meaningless)
    else
      let source ← get
      match ← nextUncounted? with
      | some special =>
        if special ≠ '\x7d' && (← peek?) = some '\x7d' then
          return ([special], if isSpecial special then .length else .meaningless)
        else
          set source
          return (['#'], ← readModifier)
      | none => return (['#'], ← readModifier)
  | some '\x7d' => return ([], .meaningless)
  | some first =>
    let name ← parameterName
    if name ≠ [] then return (name, ← readModifier)
    else
      let _ ← nextUncounted?
      if isSpecial first then return ([first], ← readModifier) else return ([first], .meaningless)
  | none => return ([], .meaningless)

/-- Reads a parameter in braces, behind the opening one. -/
def readBraces (inner : Setting → ReadM Word) (setting : Setting) : ReadM Part := do
  let quoted := setting.quoted
  let word := inner (setting.behindBrace quoted)
  match ← readName with
  | (name, .closed) => return .parameter name .value quoted
  | (name, .length) =>
    let _ ← word
    return .parameter name .length quoted
  | (name, .fallback kind orEmpty) =>
    return .parameter name (.fallback kind orEmpty (← word)) quoted
  | (name, .trim side) =>
    return .parameter name (.trim side (← inner (setting.behindBrace false))) quoted
  | (name, .meaningless) =>
    let _ ← word
    return .parameter name .meaningless quoted

/-- Reads what a dollar sign begins. -/
def readDollar (nested : Nested) (inner : Setting → ReadM Word) (setting : Setting) :
    ReadM Part := do
  let quoted := setting.quoted
  match ← peek? with
  | none => return .octet '$' quoted
  | some first =>
    if setting.literal then return .octet '$' quoted
    else if first = '(' then
      let _ ← take?
      if ← nextIf '(' then return .arithmetic (← inner setting.behindParentheses) quoted
      else return .substitution (← readEnclosed nested) quoted
    else if first = '\x7b' then
      let _ ← take?
      readBraces inner setting
    else if beginsName first then
      return .parameter (← takeAll inName (← get).rest.length) .value quoted
    else if isSpecial first then
      let _ ← take?
      return .parameter [first] .value quoted
    else return .octet '$' quoted

/-! ## Parts -/

/-- The parts between double quotes. A row of all arguments alone is no part if there are none, and
in all other cases the quotes are. -/
def betweenQuotes (inside : Word) : Word :=
  match inside with
  | [.parameter ['@'] .value true] => inside
  | _ => .quotes :: inside

/-- The **parts of a word** in a place. In braces `inQuotes` says whether a second double quote is
to come, and in an arithmetic expression `level` parentheses are to be closed. -/
def parts (nested : Nested) : Nat → Setting → Bool → Nat → ReadM Word
  | 0, _, _, _ => return []
  | fuel + 1, setting, inQuotes, level => do
    let more := parts nested fuel setting inQuotes level
    let inner := fun setting => parts nested fuel setting false 0
    match ← peek? with
    | none => endParts setting
    | some character =>
      if setting.ending = .blank && isMeta character then return []
      else
        let _ ← take?
        match character with
        | '\n' =>
          if ← documentEnds setting then return .octet '\n' setting.quoted :: (← endParts setting)
          else return .octet '\n' setting.quoted :: (← more)
        | '\\' =>
          noteQuote
          let part := escaped setting (← take?)
          return part ++ (← more)
        | '\'' =>
          if setting.quoted then return .octet character true :: (← more)
          else
            noteQuote
            let inside ← singleQuoted ((← get).rest.length + 1)
            return .quotes :: inside ++ (← more)
        | '"' =>
          match setting.ending, setting.quoted with
          | .quote, _ => return []
          | .document, _ | .parentheses, _ => return .octet character true :: (← more)
          | .brace, true =>
            noteQuote
            return .quotes :: (← parts nested fuel setting (!inQuotes) level)
          | _, _ =>
            noteQuote
            let inside ← inner setting.behindQuote
            return betweenQuotes inside ++ (← more)
        | '$' =>
          let part ← readDollar nested inner setting
          return part :: (← more)
        | '\x60' =>
          if setting.literal then
            noteQuote
            return .octet character true :: (← more)
          else
            let text ← backquoted setting.quoted ((← get).rest.length + 1)
            let body ← readCutOut nested text
            return .substitution body setting.quoted :: (← more)
        | '\x7d' =>
          if setting.ending = .brace && !inQuotes then return []
          else return .octet character setting.quoted :: (← more)
        | '(' =>
          let rest ← parts nested fuel setting inQuotes (level + 1)
          return .octet character setting.quoted :: rest
        | ')' =>
          if setting.ending = .parentheses then
            if level = 0 then
              if ← nextIf ')' then return [] else return .octet character true :: (← more)
            else return .octet character true :: (← parts nested fuel setting inQuotes (level - 1))
          else return .octet character setting.quoted :: (← more)
        | _ => return .octet character setting.quoted :: (← more)

/-- Reads a **word**, and says whether any of it was quoted. -/
def readWord (nested : Nested) (setting : Setting) : ReadM (Word × Bool) := do
  modify fun source => { source with quoteSeen := false }
  let word ← parts nested ((← get).rest.length + 1) setting false 0
  return (word, (← get).quoteSeen)

/-! ## Documents -/

/-- The lines of a document in which nothing is expanded. -/
def literalDocument (mark : EndMark) : Nat → ReadM Word
  | 0 => return []
  | fuel + 1 => do
    if ← passMark mark then return []
    else
      let source ← get
      match source.rest with
      | [] => return []
      | _ :: _ =>
        let line := source.rest.takeWhile (· ≠ '\n')
        let rest := source.rest.drop line.length
        let line := line ++ rest.take 1
        set { source with rest := rest.drop 1, line := source.line + 1 }
        return line.map (Part.octet · true) ++ (← literalDocument mark fuel)

/-- Reads a document up to its end. -/
def readDocument (nested : Nested) (mark : EndMark) : ReadM Word := do
  let fuel := (← get).rest.length + 1
  if mark.literal then literalDocument mark fuel
  else if ← passMark mark then return []
  else parts nested fuel ⟨.document, true, false, some mark, false⟩ false 0

/-- Reads the documents that begin here. -/
def readEach (nested : Nested) : List (Nat × EndMark) → ReadM Unit
  | [] => return
  | (number, mark) :: rest => do
    let document ← readDocument nested mark
    modify fun source => { source with documents := (number, document) :: source.documents }
    readEach nested rest

/-- Reads the **documents** that begin behind a line. -/
def readDocuments (nested : Nested) : ReadM Unit := do
  let waiting := (← get).waiting
  modify fun source => { source with waiting := [] }
  readEach nested waiting

end Shell

end CallForest
