import CallForest.Shell.Arithmetic
import CallForest.Shell.Field
import CallForest.Shell.Session

/-! # Expanding the words of shell scripts

Parameters, the output of commands and arithmetic expressions are filled in. What they gave outside
quotes is split into fields, of which those with patterns stand for files.

* `Shell.parameter?`: the value of a parameter.
* `Shell.Expander`: how words are expanded.
* `Shell.Expander.fields`, `Shell.Expander.text`, `Shell.Expander.pattern`: words as fields, as
  texts and as patterns. -/

namespace CallForest

namespace Shell

/-! ## Parameters -/

/-- The letters of the options, in the order in which they are shown. -/
def optionLetters : List Char :=
  ['u', 'b', 'a', 'C', 'E', 'V', 'v', 'x', 's', 'n', 'm', 'i', 'I', 'f', 'e']

/-- Arguments in a row, with the first separator between them. -/
def joined (session : Session) : Octets :=
  let between := session.separators.take 1
  between.intercalate session.arguments

/-- The value of a parameter that is no row of arguments. -/
def parameter? (session : Session) (name : Octets) : Option Octets :=
  match name with
  | ['?'] => some (Octets.ofNat session.status)
  | ['#'] => some (Octets.ofNat session.arguments.length)
  | ['$'] => some Session.identity
  | ['!'] => session.background.map Octets.ofNat
  | ['-'] => some (optionLetters.filter session.has)
  | ['@'] | ['*'] => some (joined session)
  | name =>
    if name.all Char.isDigit then
      match (String.ofList name).toNat?.getD 0 with
      | 0 => some session.zero
      | number + 1 => session.arguments[number]?
    else session.value? name

/-- Whether a parameter is a row of arguments. -/
def isRow (name : Octets) : Bool := name = ['@'] || name = ['*']

/-! ## Tildes -/

/-- The directory that a name behind a tilde stands for. -/
def home? (session : Session) (name : Octets) : Option Octets :=
  if name.isEmpty then session.value? "HOME".toList
  else if name = "root".toList then some "/root".toList
  else none

/-- A word whose tilde at the start stands for a directory. Its name ends at a slash, and in an
assignment at a colon. -/
def expandTilde (session : Session) (assigning : Bool) (word : Word) : Word :=
  match word with
  | .octet '~' false :: rest =>
    let ends := fun (character : Char) => character = '/' || (assigning && character = ':')
    let name := rest.takeWhile fun
      | .octet character false => !ends character
      | _ => false
    let behind := rest.drop name.length
    let complete := match behind with
      | [] => true
      | .octet character false :: _ => ends character
      | _ => false
    match plain? name with
    | some text =>
      match if complete then home? session text else none with
      | some directory => directory.map (Part.octet · true) ++ behind
      | none => word
    | none => word
  | word => word

/-- An assigned value whose tildes at the start and behind colons stand for directories. -/
def expandTildes (session : Session) : Nat → Word → Word
  | 0, word => word
  | fuel + 1, word =>
    let word := expandTilde session true word
    let front := word.takeWhile fun
      | .octet ':' false => false
      | _ => true
    match word.drop front.length with
    | colon :: rest => front ++ colon :: expandTildes session fuel rest
    | [] => front

/-! ## Expanders -/

/-- How words are expanded. -/
structure Expander where
  /-- The output of commands. -/
  substitute : Command → ShellM Octets

/-- How a word is expanded. -/
structure Manner where
  /-- Whether the word becomes fields. -/
  full : Bool
  /-- Whether its characters are split as those of a value are. -/
  operand : Bool
  deriving DecidableEq, Repr

/-- Where the characters of an expansion come from. -/
def originOf (quoted : Bool) : Origin := if quoted then .quoted else .value

/-- The items of a value. -/
def valueItems (quoted : Bool) (value : Octets) : List Item :=
  if quoted then itemsOf .quoted value else .edge false :: itemsOf .value value

/-- Whether a parameter becomes a row of fields. -/
def becomesRow (manner : Manner) (name : Octets) (quoted : Bool) : Bool :=
  isRow name && manner.full && (name = ['@'] || !quoted)

/-- The items of texts in a row. -/
def itemsOfRow (quoted : Bool) (row : List Octets) : List Item :=
  if row.isEmpty then []
  else .edge quoted :: [Item.border].intercalate (row.map (itemsOf (originOf quoted)))

/-- The items of all arguments. -/
def rowItems (session : Session) (manner : Manner) (name : Octets) (quoted : Bool) : List Item :=
  if becomesRow manner name quoted then itemsOfRow quoted session.arguments
  else valueItems quoted (joined session)

/-- What is said when an expression has no value. -/
def arithmeticReport (expression : Octets) (fault : ArithmeticFault) : Octets :=
  "arithmetic expression: ".toList ++ fault.message.toList ++ ": \"".toList ++ expression ++ ['"']

/-- The value of a variable in an expression. -/
def readInteger (name : Octets) : ShellM Int := do
  let text := ((← get).value? name).getD []
  match integer? true text with
  | some value => return value
  | none => fail ("Illegal number: ".toList ++ text)

/-- The value of an expression. -/
def compute (expression : Octets) : ShellM Int := do
  match Expression.parse expression with
  | .error fault => fail (arithmeticReport expression fault)
  | .ok parsed =>
    parsed.evaluate
      { read := readInteger
        write := fun name value => assign name (Octets.ofInt value) false
        fail := fun fault => fail (arithmeticReport expression fault) }

/-- A text without the ends of lines at its end. -/
def withoutNewlines (text : Octets) : Octets :=
  (text.reverse.dropWhile (· = '\n')).reverse.filter (· ≠ '\x00')

/-- Gives a missing value to a parameter. -/
def assignParameter (name value : Octets) : ShellM Unit := do
  if isName name then assign name value false
  else fail (name ++ ": bad variable name".toList)

/-- Fails if a missing parameter must not be missing. -/
def requireSet (name : Octets) (value : Option Octets) : ShellM Unit := do
  if value.isNone && (← get).has 'u' then fail (name ++ ": parameter not set".toList)

/-- The items of a word whose tilde at the start stands for a directory, unless it is `quoted`. -/
def homeItems (session : Session) (quoted : Bool) (items : List Item) : List Item :=
  match items with
  | .octet '~' origin :: rest =>
    let name := rest.takeWhile fun
      | .octet character origin => character ≠ '/' && origin ≠ .quoted
      | _ => false
    let behind := rest.drop name.length
    let complete := match behind with
      | [] => true
      | .octet '/' origin :: _ => origin ≠ .quoted
      | _ => false
    if quoted || origin = .quoted || !complete then items
    else
      match home? session (textOf name) with
      | some directory => itemsOf .quoted directory ++ behind
      | none => items
  | items => items

namespace Expander

variable (expander : Expander)

mutual

/-- The items of parts of a word. -/
def items (manner : Manner) : List Part → ShellM (List Item)
  | [] => return []
  | part :: rest => do
    let front ← itemsOfPart manner part
    let back ← items manner rest
    return front ++ back

/-- The items of a part of a word. -/
def itemsOfPart (manner : Manner) : Part → ShellM (List Item)
  | .octet value quoted =>
    return [.octet value (if quoted then .quoted else if manner.operand then .value else .literal)]
  | .quotes => return [.quotes]
  | .substitution body quoted => do
    let output ← expander.substitute body
    return valueItems quoted (withoutNewlines output)
  | .arithmetic expression quoted => do
    let text := textOf (← items ⟨false, false⟩ expression)
    let value ← compute text
    return valueItems quoted (Octets.ofInt value)
  | .parameter name use quoted => itemsOfUse manner name quoted use

/-- The items of a use of a parameter. -/
def itemsOfUse (manner : Manner) (name : Octets) (quoted : Bool) : Use → ShellM (List Item)
  | .value => do
    let session ← get
    if isRow name then return rowItems session manner name quoted
    else
      let value := parameter? session name
      requireSet name value
      return valueItems quoted (value.getD [])
  | .length => do
    let value := parameter? (← get) name
    requireSet name value
    return valueItems quoted (Octets.ofNat (value.getD []).length)
  | .fallback kind orEmpty word => do
    let session ← get
    let value := (parameter? session name).filter fun value => !orEmpty || !value.isEmpty
    let operand : Manner := { manner with operand := !quoted }
    let itself := if isRow name then rowItems session manner name quoted
      else valueItems quoted (value.getD [])
    match kind, value with
    | .default, some _ | .assign, some _ | .complain, some _ => return itself
    | .default, none | .replace, some _ =>
      let inside := homeItems session quoted (← items operand word)
      return if quoted then inside else .edge false :: inside
    | .replace, none => return []
    | .assign, none =>
      let text := textOf (homeItems session quoted (← items ⟨false, false⟩ word))
      assignParameter name text
      return valueItems quoted text
    | .complain, none =>
      if word.isEmpty then
        fail (name ++ ": parameter not set".toList ++ if orEmpty then " or null".toList else [])
      else
        let text := textOf (homeItems session quoted (← items ⟨false, false⟩ word))
        fail (name ++ ": ".toList ++ text)
  | .trim side pattern => do
    let session ← get
    let value := parameter? session name
    requireSet name value
    match value with
    | none => return valueItems quoted []
    | some value =>
      let pattern := homeItems session quoted (← items ⟨false, false⟩ pattern)
      let pattern := Pattern.ofGlyphs (glyphsOf pattern)
      if becomesRow manner name quoted && !session.arguments.isEmpty then
        let row := ['\x00'].intercalate session.arguments
        return itemsOfRow quoted ((pattern.trim side.front side.longest row).splitOn '\x00')
      else return valueItems quoted (pattern.trim side.front side.longest value)
  | .meaningless => failText "Bad substitution"

end

/-- The fields of a word. -/
def fieldsOfWord (word : Word) : ShellM (List Octets) := do
  let word := expandTilde (← get) false word
  let items ← expander.items ⟨true, false⟩ word
  let session ← get
  return fieldsOf session.world.files session.separators (session.has 'f') items

/-- The **fields of words**. -/
def fields : List Word → ShellM (List Octets)
  | [] => return []
  | first :: rest => do
    let front ← expander.fieldsOfWord first
    let back ← fields rest
    return front ++ back

/-- A word as a **text**, which is not split. -/
def text (word : Word) : ShellM Octets := do
  let word := expandTilde (← get) false word
  return textOf (← expander.items ⟨false, false⟩ word)

/-- The value of an assignment as a text. -/
def assigned (word : Word) : ShellM Octets := do
  let word := expandTildes (← get) (word.length + 1) word
  return textOf (← expander.items ⟨false, false⟩ word)

/-- A word as a **pattern**. -/
def pattern (word : Word) : ShellM Pattern := do
  let word := expandTilde (← get) false word
  return Pattern.ofGlyphs (glyphsOf (← expander.items ⟨false, false⟩ word))

end Expander

end Shell

end CallForest
