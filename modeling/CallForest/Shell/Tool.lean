import CallForest.Shell.Builtin.Output
import CallForest.Shell.Tool.Alike
import CallForest.Shell.Tool.Backwards
import CallForest.Shell.Tool.Column
import CallForest.Shell.Tool.Edit
import CallForest.Shell.Tool.Exchange
import CallForest.Shell.Tool.Listing
import CallForest.Shell.Tool.Portion
import CallForest.Shell.Tool.Question
import CallForest.Shell.Tool.Remove
import CallForest.Shell.Tool.Search
import CallForest.Shell.Tool.Series
import CallForest.Shell.Tool.Size
import CallForest.Shell.Tool.Transfer
import CallForest.Shell.Tool.Value

/-! # All tools

* `Shell.Tool.all`: the tools by their names.
* `Shell.Tool.find?`: the tool of a name. -/

namespace CallForest

namespace Shell

namespace Tool

/-- How long it is waited. -/
def sleepUsage : Usage := {}

/-- How many seconds a letter stands for. -/
def secondsOf : List (Char × Nat) :=
  [('s', 1), ('m', 60), ('h', 60 * 60), ('d', 24 * 60 * 60)]

/-- A time in millionths of a second, written as a decimal number with a letter for a unit. -/
def time? (word : Octets) : Option Nat :=
  let unit? := word.getLast?.bind (secondsOf.lookup ·)
  let number := if unit?.isSome then word.dropLast else word
  (Term.read? number).bind fun term =>
    if term.digits < 0 then none
    else some (term.digits.toNat * 1000000 * unit?.getD 1 / Nat.pow 10 term.places)

/-- Waits for a time. -/
def sleep : Tool := fun words =>
  sleepUsage.run words fun name given => do
    if given.arguments.isEmpty then lacksOperand name
    else
      let refused := given.arguments.filter fun word => (time? word).isNone
      for word in refused do report name ("invalid time interval ".toList ++ quoted word)
      if refused.isEmpty then
        let times := given.arguments.filterMap time?
        modify fun session =>
          let clock := times.foldl (· + ·) session.world.clock
          { session with world := { session.world with clock } }
        return 0
      else
        adviseHelp name
        return 1

/-- Runs a command of the shell as a tool: it reports in its own name. -/
def ofBuiltin (body : List Octets → ShellM Nat) : Tool := fun words => do
  match ← attempt (body words.tail) with
  | .ok status => return status
  | .error _ => return 2

/-- Prints words on a line. Escapes have a meaning only if that is asked for. -/
def echo : Tool := fun words => do
  let isOption := fun (word : Octets) =>
    match word with
    | '-' :: letter :: letters => (letter :: letters).all ['n', 'e', 'E'].contains
    | _ => false
  let options := words.tail.takeWhile isOption
  let arguments := words.tail.drop options.length
  let escapes := (options.flatten.filter ['e', 'E'].contains).getLast? = some 'e'
  let text := [' '].intercalate arguments
  let (text, stopped) := if escapes then unescaped text else (text, false)
  print (text ++ if stopped || options.flatten.contains 'n' then [] else ['\n'])
  return 0

/-- The tools by their names. -/
def all : List (String × Tool) := [
  ("[", testToolInBrackets), ("basename", basename), ("cat", cat), ("chmod", chmod),
  ("cp", cp), ("cut", cut), ("dirname", dirname), ("echo", echo), ("expr", expr),
  ("false", fun _ => return 1), ("grep", grep), ("head", head), ("ls", ls), ("mkdir", mkdir),
  ("mv", mv), ("printf", ofBuiltin printf), ("pwd", pwd), ("rev", rev), ("rm", rm),
  ("rmdir", rmdir), ("sed", sed), ("seq", seq), ("sleep", sleep), ("sort", sort), ("tac", tac),
  ("tail", tail), ("tee", tee), ("test", testTool), ("touch", touch), ("tr", tr),
  ("true", fun _ => return 0), ("uniq", uniq), ("wc", wc)]

/-- The tool of a name. -/
def find? (name : String) : Option Tool := all.lookup name

end Tool

end Shell

end CallForest
