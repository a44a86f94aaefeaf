import CallForest.Shell.WordReading

/-! # Reading commands of shell scripts

Commands are read line by line: a line is read, with all lines that its last command goes on to, and
run before the next one is looked at.

* `Shell.readToken`, `Shell.pushBack`: tokens.
* `Shell.Goal`, `Shell.readCommand`: the levels of the grammar.
* `Shell.readLine`: the next line of a script. -/

namespace CallForest

namespace Shell

/-! ## Tokens -/

/-- Puts a token back. -/
def pushBack (token : Token) : ReadM Unit :=
  modify fun source => { source with pushed := some token }

/-- Passes over the rest of a line. -/
def skipComment : ReadM Unit :=
  modify fun source => { source with rest := source.rest.dropWhile (· ≠ '\n') }

/-- Reads what follows a greater sign. -/
def readOutput : ReadM RedirectionKind := do
  match ← peek? with
  | some '>' =>
    let _ ← take?
    return .file .append
  | some '|' =>
    let _ ← take?
    return .file .overwrite
  | some '&' =>
    let _ ← take?
    return .copy
  | _ => return .file .output

/-- Reads what follows a less sign. -/
def readInput : ReadM RedirectionKind := do
  match ← peek? with
  | some '<' =>
    let _ ← take?
    return .document (← nextIf '-')
  | some '>' =>
    let _ ← take?
    return .file .both
  | some '&' =>
    let _ ← take?
    return .copy
  | _ => return .file .input

/-- The descriptor that a word in front of a redirection operator gives. -/
def descriptor? : Word → Option (Option Nat)
  | [] => some none
  | [.octet digit false] => if digit.isDigit then some (some (digit.toNat - '0'.toNat)) else none
  | _ => none

/-- Reads a word, or a redirection operator with the descriptor in front of it. -/
def readWordToken (nested : Nested) (setting : Setting) : ReadM Token := do
  let (word, quoted) ← readWord nested setting
  match ← peek?, descriptor? word with
  | some '>', some descriptor =>
    if quoted then return .word word quoted
    else
      let _ ← take?
      return .redirection (descriptor.getD 1) (← readOutput)
  | some '<', some descriptor =>
    if quoted then return .word word quoted
    else
      let _ ← take?
      return .redirection (descriptor.getD 0) (← readInput)
  | _, _ => return .word word quoted

/-- Reads an operator that may be doubled. -/
def readOperator (character : Char) : ReadM Token := do
  let _ ← take?
  if ← nextIf character then return .operator (String.ofList [character, character])
  else return .operator character.toString

/-- Reads a token that has not been put back. Blanks and comments in front of it are passed over. -/
def readNew (nested : Nested) (setting : Setting) : Nat → ReadM Token
  | 0 => return .endOfFile
  | fuel + 1 => do
    match ← peek? with
    | none => return .endOfFile
    | some ' ' | some '\t' =>
      let _ ← take?
      readNew nested setting fuel
    | some '#' =>
      skipComment
      readNew nested setting fuel
    | some '\n' =>
      let _ ← take?
      return .newline
    | some '(' | some ')' => return .operator ((← take?).elim "" Char.toString)
    | some '&' => readOperator '&'
    | some '|' => readOperator '|'
    | some ';' => readOperator ';'
    | some _ => readWordToken nested setting

/-- What is looked for in a token. -/
structure Wanted where
  /-- Whether ends of lines are passed over. -/
  newlines : Bool
  /-- Whether words may belong to the syntax of commands. -/
  keywords : Bool
  /-- Whether words may stand for texts. -/
  aliases : Bool
  /-- The place of words. -/
  setting : Setting

namespace Wanted

/-- A token as it comes. -/
def plain : Wanted := ⟨false, false, false, .word⟩

/-- The name of a command. -/
def name : Wanted := ⟨false, false, true, .word⟩

/-- A word that may belong to the syntax of commands. -/
def keyword : Wanted := ⟨false, true, true, .word⟩

/-- The beginning of a command that may be on a later line. -/
def later : Wanted := ⟨true, true, true, .word⟩

end Wanted

/-- Reads a token, or takes the one that has been put back. -/
def readRaw (nested : Nested) (setting : Setting) : ReadM Token := do
  let source ← get
  match source.pushed with
  | some token =>
    set { source with pushed := none }
    return token
  | none => readNew nested setting (source.rest.length + 1)

/-- The source without the texts whose ends have been passed. -/
def Source.settle (source : Source) : Source :=
  { source with active := source.active.filter (·.left ≤ source.rest.length) }

/-- The text that a name stands for, unless that text is being read. -/
def alias? (source : Source) (name : Octets) : Option Octets :=
  if source.active.any (·.name = name) then none else source.aliases.lookup name

/-- The source with a text in place of a name that has been read. -/
def Source.replace (source : Source) (name text : Octets) : Source :=
  let goesOn := text.getLast? = some ' ' || text.getLast? = some '\t'
  { source with
    rest := text ++ source.rest
    active := ⟨name, source.rest.length, goesOn⟩ :: source.active }

/-- Whether the end of a text that another one may follow has been passed since the source was at a
place. -/
def Source.goesOn (source : Source) (start : Nat) : Bool :=
  source.active.any fun text => text.goesOn && text.left < start && source.rest.length < text.left

/-- Reads a **token**. -/
def readToken (nested : Nested) (wanted : Wanted) : ReadM Token := do
  let start ← get
  iterate (return .endOfFile) (fun () => do
    let place := (← get).rest.length
    match ← readRaw nested wanted.setting with
    | .newline =>
      if wanted.newlines then
        readDocuments nested
        return .inl ()
      else return .inr .newline
    | .word parts false =>
      match plain? parts with
      | none => return .inr (.word parts false)
      | some text =>
        let name := String.ofList text
        if wanted.keywords && keywords.contains name then return .inr (.keyword name)
        else
          let source ← get
          let aliased := wanted.aliases || source.goesOn place
          let source := source.settle
          match if aliased then alias? source text else none with
          | none => return .inr (.word parts false)
          | some value =>
            set (source.replace text value)
            return .inl ()
    | token => return .inr token)
    (start.rest.length * 2 + 1024) ()

/-! ## Commands -/

/-- A level of the grammar. -/
inductive Goal where
  /-- The commands of a line. -/
  | line
  /-- Commands on lines of their own, at least one. -/
  | block
  /-- Commands on lines of their own, if there are any. -/
  | body
  /-- Commands that are joined by their success. -/
  | joined
  /-- Commands that are joined by pipes. -/
  | piped
  /-- A single command, which may be on a later line if it is `delayed`. -/
  | single (delayed : Bool)
  deriving DecidableEq, Repr

/-- The commands that special ones have the names of; no function can be defined for them. -/
def specialNames : List String :=
  [".", ":", "break", "continue", "eval", "exec", "exit", "export", "readonly", "return", "set",
    "shift", "times", "trap", "unset"]

/-- Reads tokens and commands on the level below. -/
structure Grammar where
  /-- Reads commands of a level. -/
  read : Goal → ReadM Command
  /-- How commands within words are read. -/
  nested : Nested
  /-- A bound on the number of tokens. -/
  fuel : Nat

namespace Grammar

variable (grammar : Grammar)

/-- Reads a token. -/
def token (wanted : Wanted) : ReadM Token := readToken grammar.nested wanted

/-- Reads a given token. -/
def expect (token : Token) (wanted : Wanted) : ReadM Unit := do
  let found ← grammar.token wanted
  if found.name ≠ token.name then refuseToken found (some token)

/-! ### Redirections -/

/-- Reads what follows a redirection operator. -/
def redirection (descriptor : Nat) (kind : RedirectionKind) : ReadM Redirection := do
  let setting := match kind with
    | .document _ => Setting.literalWord
    | _ => .word
  match ← grammar.token { Wanted.plain with setting } with
  | .word parts quoted =>
    match kind with
    | .file mode => return .file descriptor mode parts
    | .copy => return .copy descriptor parts
    | .document stripped =>
      let text := parts.filterMap fun
        | .octet value _ => some value
        | _ => none
      let mark : EndMark := ⟨text, stripped, quoted⟩
      let source ← get
      set { source with
        waiting := source.waiting ++ [(source.number, mark)]
        number := source.number + 1 }
      return .document descriptor source.number
  | found => refuseToken found none

/-- Reads the redirections behind a command. -/
def redirections : ReadM (List Redirection) :=
  iterate (return []) (fun read => do
    match ← grammar.token .keyword with
    | .redirection descriptor kind => return .inl ((← grammar.redirection descriptor kind) :: read)
    | token =>
      pushBack token
      return .inr read.reverse) grammar.fuel []

/-! ### Simple commands -/

/-- The parts of a simple command that have been read, the last ones first. -/
structure SimpleParts where
  /-- The assignments. -/
  assignments : List Word
  /-- The words. -/
  words : List Word
  /-- The redirections. -/
  redirections : List Redirection

/-- The simple command at a line that has these parts. -/
def SimpleParts.command (parts : SimpleParts) (line : Nat) : Command :=
  .simple line parts.assignments.reverse parts.words.reverse parts.redirections.reverse

/-- Reads the definition of a function behind its name and a parenthesis. -/
def function (name : Word) : ReadM Command := do
  grammar.expect (.operator ")") .plain
  match plain? name with
  | some text =>
    if isName text && !specialNames.contains (String.ofList text) then
      let line := (← get).line
      return .function line text (← grammar.read (.single true))
    else refuse .badFunctionName
  | none => refuse .badFunctionName

/-- Reads a simple command, the first token of which has been put back. -/
def simple : ReadM Command := do
  let line := (← get).line
  let step := fun (read : SimpleParts) => do
    let first := read.words.isEmpty
    match ← grammar.token (if first then .name else .plain) with
    | .word parts _ =>
      if first && (wordAssignment? parts).isSome then
        return .inl { read with assignments := parts :: read.assignments }
      else return .inl { read with words := parts :: read.words }
    | .redirection descriptor kind =>
      let redirection ← grammar.redirection descriptor kind
      return .inl { read with redirections := redirection :: read.redirections }
    | .operator "(" =>
      match read with
      | ⟨[], [name], []⟩ => return .inr (← grammar.function name)
      | _ =>
        pushBack (.operator "(")
        return .inr (read.command line)
    | token =>
      pushBack token
      return .inr (read.command line)
  iterate (return .nothing) step grammar.fuel ⟨[], [], []⟩

/-! ### Compound commands -/

/-- Reads a condition behind its first word, up to its end. -/
def conditional : Nat → ReadM Command
  | 0 => return .nothing
  | fuel + 1 => do
    let test ← grammar.read .block
    grammar.expect (.keyword "then") .plain
    let yes ← grammar.read .block
    match ← grammar.token .plain with
    | .keyword "elif" => return .conditional test yes (← conditional fuel)
    | .keyword "else" =>
      let no ← grammar.read .block
      grammar.expect (.keyword "fi") .plain
      return .conditional test yes no
    | .keyword "fi" => return .conditional test yes .nothing
    | found => refuseToken found (some (.keyword "fi"))

/-- Reads a loop behind its first word, up to its end. -/
def loop (negated : Bool) : ReadM Command := do
  let test ← grammar.read .block
  grammar.expect (.keyword "do") .plain
  let body ← grammar.read .block
  grammar.expect (.keyword "done") .plain
  return .loop negated test body

/-- Reads words up to the end of a row. -/
def rowOfWords : ReadM (List Word) :=
  iterate (return []) (fun read => do
    match ← grammar.token .plain with
    | .word parts _ => return .inl (parts :: read)
    | .newline | .operator ";" => return .inr read.reverse
    | found => refuseToken found none) grammar.fuel []

/-- Reads a loop over words behind its first word, up to its end. -/
def each (line : Nat) : ReadM Command := do
  match ← grammar.token .plain with
  | .word parts false =>
    match plain? parts with
    | some name =>
      if !isName name then refuse .badLoopVariable
      else
        let words ← match ← grammar.token .later with
          | .keyword "in" => grammar.rowOfWords
          | .operator ";" => pure [[.parameter ['@'] .value true]]
          | token =>
            pushBack token
            pure [[.parameter ['@'] .value true]]
        grammar.expect (.keyword "do") .later
        let body ← grammar.read .block
        grammar.expect (.keyword "done") .plain
        return .each line name words body
    | none => refuse .badLoopVariable
  | _ => refuse .badLoopVariable

/-- The word that a token is taken for where a pattern must stand. -/
def wordOf : Token → Word
  | .word parts _ => parts
  | .keyword text | .operator text => text.toList.map (Part.octet · false)
  | _ => []

/-- Reads the patterns of a branch, the first of which has been read, up to the parenthesis. -/
def patterns (first : Token) : ReadM (List Word) :=
  iterate (return []) (fun read => do
    match ← grammar.token .plain with
    | .operator "|" => return .inl (wordOf (← grammar.token .plain) :: read)
    | .operator ")" => return .inr read.reverse
    | found => refuseToken found (some (.operator ")"))) grammar.fuel [wordOf first]

/-- Reads the branches of a choice up to its end. -/
def branches : Nat → ReadM (List Branch)
  | 0 => return []
  | fuel + 1 => do
    match ← grammar.token { Wanted.later with aliases := false } with
    | .keyword "esac" => return []
    | token =>
      let first ← match token with
        | .operator "(" => grammar.token .plain
        | token => pure token
      let patterns ← grammar.patterns first
      let body ← grammar.read .body
      match ← grammar.token { Wanted.later with aliases := false } with
      | .keyword "esac" => return [.branch patterns body]
      | .operator ";;" => return .branch patterns body :: (← branches fuel)
      | found => refuseToken found (some (.operator ";;"))

/-- Reads a choice behind its first word, up to its end. -/
def choice (line : Nat) : ReadM Command := do
  match ← grammar.token .plain with
  | .word subject _ =>
    grammar.expect (.keyword "in") .later
    return .choice line subject (← grammar.branches grammar.fuel)
  | found => refuseToken found (some (.word [] false))

/-- A command with redirections, if there are any. -/
def withRedirections (line : Nat) (command : Command) : List Redirection → Command
  | [] => command
  | redirections =>
    match command with
    | .subshell line command _ => .subshell line command redirections
    | command => .redirected line command redirections

/-- Reads a single command, which may be on a later line if it is `delayed`. -/
def single (delayed : Bool) : ReadM Command := do
  let line := (← get).line
  let compound := fun (read : ReadM Command) => do
    let command ← read
    return withRedirections line command (← grammar.redirections)
  match ← grammar.token (if delayed then .later else .plain) with
  | .keyword "if" => compound (grammar.conditional grammar.fuel)
  | .keyword "while" => compound (grammar.loop false)
  | .keyword "until" => compound (grammar.loop true)
  | .keyword "for" => compound (grammar.each line)
  | .keyword "case" => compound (grammar.choice line)
  | .operator "(" =>
    compound do
      let body ← grammar.read .block
      grammar.expect (.operator ")") .plain
      return .subshell line body []
  | .keyword "\x7b" =>
    compound do
      let body ← grammar.read .block
      grammar.expect (.keyword "\x7d") .plain
      return body
  | .word parts quoted =>
    pushBack (.word parts quoted)
    grammar.simple
  | .redirection descriptor kind =>
    pushBack (.redirection descriptor kind)
    grammar.simple
  | found => refuseToken found none

/-! ### Rows of commands -/

/-- Reads commands that are joined by pipes. -/
def piped : ReadM Command := do
  let negated ← match ← grammar.token .plain with
    | .keyword "!" =>
      pushBack (← grammar.token .keyword)
      pure true
    | token =>
      pushBack token
      pure false
  let first ← grammar.read (.single false)
  let commands ← iterate (return []) (fun read => do
    match ← grammar.token .plain with
    | .operator "|" => return .inl ((← grammar.read (.single true)) :: read)
    | token =>
      pushBack token
      return .inr read.reverse) grammar.fuel [first]
  let command := match commands with
    | [command] => command
    | commands => .pipeline commands
  return if negated then .negation command else command

/-- Reads commands that are joined by their success. -/
def joined : ReadM Command := do
  let first ← grammar.read .piped
  iterate (return first) (fun read => do
    match ← grammar.token .plain with
    | .operator "&&" =>
      pushBack (← grammar.token .later)
      return .inl (.both read (← grammar.read .piped))
    | .operator "||" =>
      pushBack (← grammar.token .later)
      return .inl (.either read (← grammar.read .piped))
    | token =>
      pushBack token
      return .inr read) grammar.fuel first

/-- A command behind those in front of it. -/
def behind (front : Option Command) (command : Command) : Command :=
  match front with
  | none => command
  | some front => .sequence front command

/-- Reads a row of commands of a line, of a block or of a body. -/
def row (goal : Goal) : ReadM Command := do
  let wanted := { Wanted.later with newlines := goal ≠ .line }
  iterate (return .nothing) (fun (read : Option Command) => do
    match ← grammar.token wanted with
    | .newline =>
      readDocuments grammar.nested
      return .inr (read.getD .nothing)
    | .endOfFile =>
      readDocuments grammar.nested
      pushBack .endOfFile
      return .inr (read.getD .nothing)
    | token =>
      pushBack token
      if goal ≠ .line && (goal = .body || read.isSome) && token.endsRow then
        return .inr (read.getD .nothing)
      else
        let command ← grammar.read .joined
        match ← grammar.token .plain with
        | .operator "&" => return .inl (some (behind read (.background command)))
        | .operator ";" => return .inl (some (behind read command))
        | .newline =>
          pushBack .newline
          return .inl (some (behind read command))
        | .endOfFile =>
          readDocuments grammar.nested
          pushBack .endOfFile
          return .inr (behind read command)
        | token =>
          if goal = .line then refuseToken token none
          else
            pushBack token
            return .inr (behind read command)) grammar.fuel none

/-- Reads commands of a level. -/
def goal : Goal → ReadM Command
  | .line => grammar.row .line
  | .block => grammar.row .block
  | .body => grammar.row .body
  | .joined => grammar.joined
  | .piped => grammar.piped
  | .single delayed => grammar.single delayed

end Grammar

/-- Reads commands up to a closing parenthesis. -/
def enclosedBy (read : Goal → ReadM Command) (close : ReadM Token) : ReadM Command := do
  let body ← read .body
  match ← close with
  | .operator ")" => return body
  | found => refuseToken found (some (.operator ")"))

/-- Reads **commands of a level**. -/
def readCommand : Nat → Goal → ReadM Command
  | 0, _ => return .nothing
  | fuel + 1, goal =>
    let read := readCommand fuel
    let nothing : Nested := ⟨return .nothing, return .nothing⟩
    let nested : Nested := ⟨enclosedBy read (readToken nothing .plain), read .body⟩
    Grammar.goal ⟨read, nested, fuel⟩ goal

/-- How deep the commands of a source can be within each other. -/
def Source.depth (source : Source) : Nat := source.rest.length * 4 + 4096

/-- Reads the **next line** of a script, unless the script is at its end. -/
def readLine : ReadM (Option Command) := do
  modify fun source => { source with pushed := none, waiting := [] }
  let source ← get
  let command ← readCommand source.depth .line
  match command, (← get).pushed with
  | .nothing, some .endOfFile => return none
  | command, _ => return some command

end Shell

end CallForest
