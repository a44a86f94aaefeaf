import CallForest.Shell.Regular.Reading

/-! # Scripts that edit lines

A script is a row of commands, each for the lines that it chooses by their numbers or by
expressions. Braces put commands together, and labels are places that commands can jump to.

* `Shell.Edit.Address`, `Shell.Edit.Action`, `Shell.Edit.Step`: the parts of a script.
* `Shell.Edit.ScriptFault`: why a text is no script. -/

namespace CallForest

namespace Shell

namespace Edit

/-! ## Commands -/

/-- What chooses a line. -/
inductive Address where
  /-- Its number. -/
  | line (number : Nat)
  /-- Its number is as many steps behind another one as may be. -/
  | every (first step : Nat)
  /-- It is the last one. -/
  | last
  /-- An expression matches it, the one that was used last if none is given. -/
  | pattern (expression : Option Regular) (folded : Bool)
  /-- It is as many lines behind another one. -/
  | behind (count : Nat)
  /-- Its number is a multiple. -/
  | multiple (step : Nat)

/-- How characters that are put in place of something are changed. -/
inductive Casing where
  /-- They are not. -/
  | plain
  /-- They become capital letters. -/
  | upper
  /-- They become small letters. -/
  | lower
  deriving DecidableEq

/-- A piece of what is put in place of something. -/
inductive Piece where
  /-- A character. -/
  | octet (value : Char)
  /-- What has been remembered under a number; zero stands for everything that matches. -/
  | group (number : Nat)
  /-- What follows is changed. -/
  | casing (casing : Casing)
  /-- The next character is changed. -/
  | single (casing : Casing)

/-- What is put in place of what an expression matches. -/
structure Substitution where
  /-- The expression, if it is not the one that was used last. -/
  expression : Option Regular
  /-- Whether small and capital letters count as the same. -/
  folded : Bool
  /-- Whether the start and the end of the line stand for those of its rows. -/
  byRows : Bool
  /-- What is put in its place. -/
  pieces : List Piece
  /-- The first match that is replaced, if a number is given. -/
  first : Option Nat
  /-- Whether those behind it are replaced too. -/
  all : Bool
  /-- Whether the line is printed if anything is replaced. -/
  shown : Bool
  /-- The file that the line is written to if anything is replaced. -/
  saved : Option Octets

/-- When a jump is made. -/
inductive Jump where
  /-- In any case. -/
  | always
  /-- If something has been replaced in the line. -/
  | replaced
  /-- If nothing has been replaced in the line. -/
  | kept
  deriving DecidableEq

/-- What is done to a line. -/
inductive Action where
  /-- Something is put in place of what an expression matches. -/
  | substitute (substitution : Substitution)
  /-- Characters become other ones. -/
  | exchange (pairs : List (Char × Char))
  /-- The line is left out. -/
  | delete
  /-- The first row of the line is taken away, and the rest is given to all commands. -/
  | deleteRow
  /-- The line is printed. -/
  | print
  /-- The first row of the line is printed. -/
  | printRow
  /-- The line is printed in rows of a width with its characters spelt. -/
  | spell (width : Option Nat)
  /-- The line is the last one, and is printed unless it is to be silent. -/
  | quit (status : Nat) (silent : Bool)
  /-- The number of the line is printed. -/
  | number
  /-- Nothing. -/
  | nothing
  /-- A text is printed in front of the line. -/
  | insert (text : Octets)
  /-- A text is printed behind the line. -/
  | append (text : Octets)
  /-- A text is printed in place of the line. -/
  | change (text : Octets)
  /-- A file is printed behind the line. -/
  | read (path : Octets)
  /-- A file is printed at once. -/
  | readFirst (path : Octets)
  /-- The next line of a file is printed behind the line. -/
  | readLine (path : Octets)
  /-- The name of the file that the line is from is printed. -/
  | name
  /-- The line, or its first row, is written to a file. -/
  | save (row : Bool) (path : Octets)
  /-- The line is printed, and the next one takes its place. -/
  | next
  /-- The next line is joined to the line. -/
  | join
  /-- The line is kept, alone or behind what has been kept. -/
  | keep (joined : Bool)
  /-- What has been kept takes the place of the line, or is joined to it. -/
  | recall (joined : Bool)
  /-- The line and what has been kept change places. -/
  | swap
  /-- The line becomes empty. -/
  | clear
  /-- The commands up to the brace that closes it are for the line. -/
  | block
  /-- The end of a block. -/
  | close
  /-- A place to jump to. -/
  | label (name : Octets)
  /-- The commands behind a label follow, or none if it has no name. -/
  | jump (condition : Jump) (name : Octets)

/-- A command of a script. -/
structure Step where
  /-- The lines it is for: all of them, chosen ones, or those from one to another. -/
  first : Option Address
  /-- The end of a row of lines. -/
  last : Option Address
  /-- Whether it is for the other lines. -/
  negated : Bool
  /-- What is done. -/
  action : Action

/-- The files that a command writes to. -/
def Step.files (step : Step) : List Octets :=
  match step.action with
  | .save _ path => [path]
  | .substitute substitution => substitution.saved.toList
  | _ => []

/-! ## Faults -/

/-- Why a script cannot be read. -/
inductive ScriptFault where
  /-- There is no such command. -/
  | unknown (command : Char)
  /-- There is no command. -/
  | missing
  /-- Something follows a command. -/
  | extra
  /-- A command is not complete. -/
  | open (command : Char)
  /-- An expression that chooses lines is not complete. -/
  | openAddress
  /-- No address follows a comma. -/
  | badComma
  /-- A count is the first address. -/
  | badCount
  /-- Zero is no line. -/
  | lineZero
  /-- A command is negated twice. -/
  | negatedTwice
  /-- A remark is for chosen lines. -/
  | remarkAddress
  /-- A label is for chosen lines. -/
  | labelAddress
  /-- A label has no name. -/
  | noLabel
  /-- A command is for a row of lines but cannot be. -/
  | oneAddress
  /-- The name of a file is missing. -/
  | noFile
  /-- A block is closed that is not open. -/
  | closedBlock
  /-- A block is not closed. -/
  | openBlock
  /-- There is no such option of a substitution. -/
  | badOption
  /-- An option of a substitution is given twice. -/
  | repeatedOption (name : String)
  /-- The match that is replaced has the number zero. -/
  | matchZero
  /-- An exchange has texts of two lengths. -/
  | lengths
  /-- A text is missing. -/
  | lacksText
  /-- A text is no expression. -/
  | notExpression (fault : RegularFault)
  /-- An expression looks odd. -/
  | odd (oddity : Regular.Oddity)
  /-- An expression that is left out has options. -/
  | emptyOptions
  /-- A control character is a backslash that does not stand for itself. -/
  | nestedControl
  /-- There is no group of a number. -/
  | noGroup (number : Nat)
  /-- There is no expression in front of one that is left out. -/
  | noExpression

/-- How a fault is reported. -/
def ScriptFault.message : ScriptFault → String
  | .unknown command => "unknown command: \x60" ++ String.ofList [command, '\'']
  | .missing => "missing command"
  | .extra => "extra characters after command"
  | .open command => "unterminated \x60" ++ String.ofList [command, '\''] ++ " command"
  | .openAddress => "unterminated address regex"
  | .badComma => "unexpected \x60,'"
  | .badCount => "invalid usage of +N or ~N as first address"
  | .lineZero => "invalid usage of line address 0"
  | .negatedTwice => "multiple \x60!'s"
  | .remarkAddress => "comments don't accept any addresses"
  | .labelAddress => ": doesn't want any addresses"
  | .noLabel => "\":\" lacks a label"
  | .oneAddress => "command only uses one address"
  | .noFile => "missing filename in r/R/w/W commands"
  | .closedBlock => "unexpected \x60\x7d'"
  | .openBlock => "unmatched \x60\x7b'"
  | .badOption => "unknown option to \x60s'"
  | .repeatedOption name => "multiple " ++ name ++ " options to \x60s' command"
  | .matchZero => "number option to \x60s' command may not be zero"
  | .lengths => "strings for \x60y' command are different lengths"
  | .lacksText => "expected \\ after \x60a', \x60c' or \x60i'"
  | .notExpression fault => fault.message
  | .odd oddity => oddity.message
  | .emptyOptions => "cannot specify modifiers on empty regexp"
  | .nestedControl => "recursive escaping after \\c not allowed"
  | .noGroup number => "invalid reference \\" ++ toString number ++ " on \x60s' command's RHS"
  | .noExpression => "no previous regular expression"

end Edit

end Shell

end CallForest
