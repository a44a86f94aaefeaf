import CallForest.Text.Octets

/-! # The syntax of shell scripts

A script is a row of commands. The words of a command are read once, when the command is read, and
are expanded each time that it is run; so a word is kept as the parts that its expansion needs.

* `Shell.Part`, `Shell.Word`: words.
* `Shell.Use`: what is made of the value of a parameter.
* `Shell.Redirection`: where the streams of a command come from and go to.
* `Shell.Command`: commands. -/

namespace CallForest

namespace Shell

/-- When the word of a parameter is used, and how. -/
inductive Fallback where
  /-- The word stands for a value that is missing. -/
  | default
  /-- The word becomes the value that is missing. -/
  | assign
  /-- The word says that the value is missing. -/
  | complain
  /-- The word stands for a value that is there. -/
  | replace
  deriving DecidableEq, Repr

/-- The end of a value that a pattern takes off. -/
structure Trim where
  /-- Whether it is taken off the front. -/
  front : Bool
  /-- Whether as much as possible is taken off. -/
  longest : Bool
  deriving DecidableEq, Repr

/-- How a file is opened. -/
inductive OpenMode where
  /-- For reading. -/
  | input
  /-- For writing; the former content is lost. -/
  | output
  /-- For writing, even if files are to be kept. -/
  | overwrite
  /-- For writing behind the content. -/
  | append
  /-- For reading and writing. -/
  | both
  deriving DecidableEq, Repr

mutual

/-- A part of a word. -/
inductive Part where
  /-- A character, which means nothing but itself if it is quoted. -/
  | octet (value : Char) (quoted : Bool)
  /-- A pair of quotes: the word is there even if nothing is in it. -/
  | quotes
  /-- A parameter. -/
  | parameter (name : Octets) (use : Use) (quoted : Bool)
  /-- The output of commands. -/
  | substitution (body : Command) (quoted : Bool)
  /-- The value of an arithmetic expression. -/
  | arithmetic (expression : List Part) (quoted : Bool)

/-- What is made of the value of a parameter. -/
inductive Use where
  /-- The value itself. -/
  | value
  /-- Its length. -/
  | length
  /-- The value or a word, which is used for an empty value also if `orEmpty`. -/
  | fallback (kind : Fallback) (orEmpty : Bool) (word : List Part)
  /-- The value without an end that a pattern matches. -/
  | trim (side : Trim) (pattern : List Part)
  /-- Nothing: there is no such use. -/
  | meaningless

/-- A redirection of a stream. -/
inductive Redirection where
  /-- The stream is a file. -/
  | file (descriptor : Nat) (mode : OpenMode) (path : List Part)
  /-- The stream is that of another descriptor, or is closed. -/
  | copy (descriptor : Nat) (source : List Part)
  /-- The stream is a document of the script, given by its number. -/
  | document (descriptor : Nat) (number : Nat)

/-- A command, with the line on which it begins where reports on it need that. -/
inductive Command where
  /-- No command. -/
  | nothing
  /-- Assignments, a row of words that names a command and its arguments, and redirections. -/
  | simple (line : Nat) (assignments words : List (List Part)) (redirections : List Redirection)
  /-- Commands of which each one reads what the one in front of it writes. -/
  | pipeline (commands : List Command)
  /-- The command succeeds if another one fails. -/
  | negation (command : Command)
  /-- The second command is run if the first one succeeds. -/
  | both (first second : Command)
  /-- The second command is run if the first one fails. -/
  | either (first second : Command)
  /-- The second command is run behind the first one. -/
  | sequence (first second : Command)
  /-- The command is not waited for. -/
  | background (command : Command)
  /-- A command with redirections. -/
  | redirected (line : Nat) (command : Command) (redirections : List Redirection)
  /-- A command in a shell of its own. -/
  | subshell (line : Nat) (command : Command) (redirections : List Redirection)
  /-- One of two commands, according to a test. -/
  | conditional (test yes no : Command)
  /-- A command that is repeated while a test succeeds, or while it fails if it is `negated`. -/
  | loop (negated : Bool) (test body : Command)
  /-- A command that is repeated for each of some words. -/
  | each (line : Nat) (name : Octets) (words : List (List Part)) (body : Command)
  /-- The first branch of which a pattern matches a word. -/
  | choice (line : Nat) (subject : List Part) (branches : List Branch)
  /-- The definition of a function. -/
  | function (line : Nat) (name : Octets) (body : Command)

/-- Patterns, and the command that is run if one of them matches. -/
inductive Branch where
  /-- A branch. -/
  | branch (patterns : List (List Part)) (body : Command)

end

/-- A word. -/
abbrev Word := List Part

instance : Inhabited Command := ⟨.nothing⟩

/-- The text of some parts if none of them is quoted or expanded. -/
def plain? : Word → Option Octets
  | [] => some []
  | .octet value false :: rest => (plain? rest).map (value :: ·)
  | _ => none

/-! ## Names -/

/-- Whether a name can begin with a character. -/
def beginsName (character : Char) : Bool := character.isAlpha || character = '_'

/-- Whether a character can be in a name. -/
def inName (character : Char) : Bool := character.isAlphanum || character = '_'

/-- Whether a text is a name. -/
def isName : Octets → Bool
  | [] => false
  | first :: rest => beginsName first && rest.all inName

/-- The name and the rest of a text that assigns a value to a name. -/
def assignment? (text : Octets) : Option (Octets × Octets) :=
  let name := text.takeWhile inName
  match text.dropWhile inName with
  | '=' :: value => if isName name then some (name, value) else none
  | _ => none

/-- The name and the value of a word that is an assignment: neither the name nor the equals sign is
quoted or expanded. -/
def wordAssignment? (word : Word) : Option (Octets × Word) :=
  let front := word.takeWhile fun
    | .octet value false => inName value
    | _ => false
  match plain? front, word.drop front.length with
  | some name, .octet '=' false :: value => if isName name then some (name, value) else none
  | _, _ => none

end Shell

end CallForest
