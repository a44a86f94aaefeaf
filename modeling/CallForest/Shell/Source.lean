import CallForest.Shell.Syntax

/-! # Sources of shell scripts

A script is read from its source character by character. Outside single quotes a backslash at the
end of a line joins the line to the next one, and neither of the two characters is seen.

* `Shell.Token`: the pieces that commands are read from.
* `Shell.SyntaxFault`, `Shell.Misreading`: why a script cannot be read, and where.
* `Shell.Source`, `Shell.ReadM`: what is left of a script, and what can be done with it.
* `Shell.next?`, `Shell.peek?`, `Shell.take?`: single characters.
* `Shell.iterate`: steps that are repeated until one gives a result. -/

namespace CallForest

namespace Shell

/-! ## Tokens -/

/-- What a redirection operator asks for. -/
inductive RedirectionKind where
  /-- A file. -/
  | file (mode : OpenMode)
  /-- The stream of another descriptor. -/
  | copy
  /-- A document, whose lines lose the tabs in front of them if they are `stripped`. -/
  | document (stripped : Bool)

/-- A piece that commands are read from. -/
inductive Token where
  /-- The end of the source. -/
  | endOfFile
  /-- The end of a line. -/
  | newline
  /-- An operator that joins commands. -/
  | operator (text : String)
  /-- A word that belongs to the syntax of commands. -/
  | keyword (text : String)
  /-- A word, and whether any of it was quoted. -/
  | word (parts : Word) (quoted : Bool)
  /-- A redirection operator with its descriptor. -/
  | redirection (descriptor : Nat) (kind : RedirectionKind)

/-- How a token is called in reports. -/
def Token.name : Token → String
  | .endOfFile => "end of file"
  | .newline => "newline"
  | .operator text | .keyword text => "\"" ++ text ++ "\""
  | .word _ _ => "word"
  | .redirection _ _ => "redirection"

/-- The words that belong to the syntax of commands. -/
def keywords : List String :=
  ["!", "case", "do", "done", "elif", "else", "esac", "fi", "for", "if", "in", "then", "until",
    "while", "\x7b", "\x7d"]

/-- Whether a row of commands ends in front of a token. -/
def Token.endsRow : Token → Bool
  | .endOfFile => true
  | .operator text => [")", ";;"].contains text
  | .keyword text => ["do", "done", "elif", "else", "esac", "fi", "then", "\x7d"].contains text
  | _ => false

/-! ## Faults -/

/-- Why a script cannot be read. -/
inductive SyntaxFault where
  /-- A token stands where another one is `wanted`. -/
  | unexpected (found : String) (wanted : Option String)
  /-- A quotation is not closed. -/
  | openQuote
  /-- A parameter in braces is not closed. -/
  | openBraces
  /-- An arithmetic expression is not closed. -/
  | openArithmetic
  /-- A substitution between backquotes is not closed. -/
  | openBackquote
  /-- A function is defined for what is no name, or is the name of a special command. -/
  | badFunctionName
  /-- What a loop is to give values to is no name. -/
  | badLoopVariable
  /-- A stream is to be that of something that is no descriptor. -/
  | badDescriptor
  deriving DecidableEq, Repr

/-- How a fault is reported. -/
def SyntaxFault.message : SyntaxFault → String
  | .unexpected found none => found ++ " unexpected"
  | .unexpected found (some wanted) => found ++ " unexpected (expecting " ++ wanted ++ ")"
  | .openQuote => "Unterminated quoted string"
  | .openBraces => "Missing '\x7d'"
  | .openArithmetic => "Missing '))'"
  | .openBackquote => "EOF in backquote substitution"
  | .badFunctionName => "Bad function name"
  | .badLoopVariable => "Bad for loop variable"
  | .badDescriptor => "Bad fd number"

/-- A fault on a line. -/
structure Misreading where
  /-- The line. -/
  line : Nat
  /-- The fault. -/
  fault : SyntaxFault
  deriving DecidableEq, Repr

/-! ## Sources -/

/-- The line that ends a document. -/
structure EndMark where
  /-- What is on the line. -/
  text : Octets
  /-- Whether lines lose the tabs in front of them. -/
  stripped : Bool
  /-- Whether nothing in the document is expanded. -/
  literal : Bool
  deriving DecidableEq, Repr

/-- The text of a name that is being read in its place. -/
structure Replacement where
  /-- The name. -/
  name : Octets
  /-- How many characters are left behind the text. -/
  left : Nat
  /-- Whether the word behind the text may stand for a text, too. -/
  goesOn : Bool
  deriving DecidableEq, Repr

/-- What is left of a script. -/
structure Source where
  /-- The characters that are not read yet. -/
  rest : Octets
  /-- The line that the next character is on. -/
  line : Nat
  /-- A token that has been read and put back. -/
  pushed : Option Token
  /-- Whether a quote has been seen in the word that is being read. -/
  quoteSeen : Bool
  /-- The documents that begin behind the line, by their numbers. -/
  waiting : List (Nat × EndMark)
  /-- The documents that have been read, by their numbers. -/
  documents : List (Nat × Word)
  /-- The number of the next document. -/
  number : Nat
  /-- The texts that stand for names of commands. -/
  aliases : List (Octets × Octets)
  /-- The texts that are being read in place of names. -/
  active : List Replacement

/-- What can be done with a source. -/
abbrev ReadM := StateT Source (Except Misreading)

/-- The source of a text. -/
def Source.ofText (text : Octets) (number : Nat) (aliases : List (Octets × Octets)) : Source :=
  ⟨text.filter (· ≠ '\x00'), 1, none, false, [], [], number, aliases, []⟩

/-- Gives up. -/
def refuse {α : Type} (fault : SyntaxFault) : ReadM α := fun source => .error ⟨source.line, fault⟩

/-- Gives up at a token. -/
def refuseToken {α : Type} (found : Token) (wanted : Option Token) : ReadM α :=
  refuse (.unexpected found.name (wanted.map Token.name))

/-! ## Characters -/

/-- Takes the next character, whatever it is. -/
def take? : ReadM (Option Char) := do
  let source ← get
  match source.rest with
  | [] => return none
  | first :: rest =>
    set { source with rest, line := if first = '\n' then source.line + 1 else source.line }
    return some first

/-- The characters behind line joins, and the line that they begin on. -/
def behindJoins : Octets → Nat → Octets × Nat
  | '\\' :: '\n' :: rest, line => behindJoins rest (line + 1)
  | rest, line => (rest, line)

/-- The next character that is no part of a line join. -/
def peek? : ReadM (Option Char) := do
  let source ← get
  let (rest, line) := behindJoins source.rest source.line
  set { source with rest, line }
  return rest.head?

/-- Takes the next character that is no part of a line join. -/
def next? : ReadM (Option Char) := do
  let _ ← peek?
  take?

/-- Takes the next character if it is a given one. -/
def nextIf (character : Char) : ReadM Bool := do
  if (← peek?) = some character then
    let _ ← take?
    return true
  else return false

/-- Remembers that a quote has been seen. -/
def noteQuote : ReadM Unit := modify fun source => { source with quoteSeen := true }

/-! ## Repetition -/

/-- Repeats a step until it gives a result, or until `fuel` is spent. -/
def iterate {m : Type → Type} [Monad m] {σ α : Type} (spent : m α) (step : σ → m (σ ⊕ α)) :
    Nat → σ → m α
  | 0, _ => spent
  | fuel + 1, state => do
    match ← step state with
    | .inl next => iterate spent step fuel next
    | .inr result => return result

end Shell

end CallForest
