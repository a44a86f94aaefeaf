import CallForest.CommandLine.Reading
import CallForest.Proofs.Toml.Grammar

/-! # How command lines are written

Options have a long name behind two dashes, and some of them a letter behind one dash. A value
stands in the next word, or right behind its option, with an equals sign or, behind a letter,
without one. Flags that are letters share a dash, with one another and with the option that ends the
word. The input is a word of its own. Options and the input come in any order.

* `Argument`: what a command line gives.
* `Argument.IsText`: the values of options.
* `IsCluster`: letters behind a dash.
* `Spells`: command lines, and what they give. -/

namespace CallForest

/-! ### Arguments -/

/-- Something that a command line **gives**. -/
inductive Argument where
  /-- The file of the analysis document. -/
  | input (path : String)
  /-- The directory that diagrams are written to. -/
  | outputDir (path : String)
  /-- The format of the diagrams. -/
  | format (format : OutputFormat)
  /-- How many regions are rendered at a time. -/
  | jobs (count : Nat)
  /-- The layout program. -/
  | dotProgram (name : String)
  /-- The configuration file. -/
  | configFile (path : String)
  /-- A flag. -/
  | flag (name : FlagName)
  deriving DecidableEq, Repr

namespace Argument

/-- What it is given by. -/
def option : Argument → OptionName
  | input _ => .value .input
  | outputDir _ => .value .outputDir
  | format _ => .value .format
  | jobs _ => .value .jobs
  | dotProgram _ => .value .dotProgram
  | configFile _ => .value .configFile
  | flag name => .flag name

/-- The **text of a value**. -/
inductive IsText : Argument → String → Prop where
  /-- The input is a path, which is not empty. -/
  | input {path : String} (hpath : path ≠ "") : IsText (.input path) path
  /-- So is a directory. -/
  | outputDir {path : String} (hpath : path ≠ "") : IsText (.outputDir path) path
  /-- A format is given by its name. -/
  | format (format : OutputFormat) : IsText (.format format) format.name
  /-- A number of 64 bits is given in decimal digits, with a plus sign or without. -/
  | jobs {count : Nat} {sign digits : List Char} (hcount : count < 2 ^ 64)
      (hsign : sign = [] ∨ sign = ['+']) (hdigits : Toml.IsNumber 10 count digits)
      (hne : digits ≠ []) : IsText (.jobs count) (String.ofList (sign ++ digits))
  /-- A layout program is any text. -/
  | dotProgram (name : String) : IsText (.dotProgram name) name
  /-- A configuration file is a path. -/
  | configFile {path : String} (hpath : path ≠ "") : IsText (.configFile path) path

end Argument

/-! ### Words -/

/-- The long names of options. -/
def longNames : List (String × OptionName) :=
  [("output-dir", .value .outputDir), ("format", .value .format),
    ("include-passing", .flag .includePassing), ("exclude-failing", .flag .excludeFailing),
    ("jobs", .value .jobs), ("dot-program", .value .dotProgram), ("config", .value .configFile),
    ("verbose", .flag .verbose)]

/-- The letters of options. -/
def shortLetters : List (Char × OptionName) :=
  [('o', .value .outputDir), ('f', .value .format), ('j', .value .jobs), ('c', .value .configFile),
    ('v', .flag .verbose)]

/-- A **plain word** does not begin with a dash, unless it is nothing but the dash. -/
def IsPlain (word : String) : Prop := word = "-" ∨ word.toList.head? ≠ some '-'

/-- **Letters behind a dash**, the words behind them that belong to them, and what they give. -/
inductive IsCluster : List Char → List String → List Argument → Prop where
  /-- The last letter is that of a flag. -/
  | flag {letter : Char} {name : FlagName} (hletter : (letter, .flag name) ∈ shortLetters) :
      IsCluster [letter] [] [.flag name]
  /-- The letter of a flag, with others behind it. -/
  | next {letter : Char} {name : FlagName} {letters : List Char} {following : List String}
      {given : List Argument} (hletter : (letter, .flag name) ∈ shortLetters)
      (hrest : IsCluster letters following given) :
      IsCluster (letter :: letters) following (.flag name :: given)
  /-- A value right behind its letter. -/
  | attached {letter : Char} {name : ValueName} {argument : Argument} {text : String}
      (hletter : (letter, .value name) ∈ shortLetters) (hoption : argument.option = .value name)
      (htext : argument.IsText text) (hne : text ≠ "") (hequals : text.toList.head? ≠ some '=') :
      IsCluster (letter :: text.toList) [] [argument]
  /-- A value behind an equals sign. -/
  | assigned {letter : Char} {name : ValueName} {argument : Argument} {text : String}
      (hletter : (letter, .value name) ∈ shortLetters) (hoption : argument.option = .value name)
      (htext : argument.IsText text) : IsCluster (letter :: '=' :: text.toList) [] [argument]
  /-- A value in the next word. -/
  | apart {letter : Char} {name : ValueName} {argument : Argument} {text : String}
      (hletter : (letter, .value name) ∈ shortLetters) (hoption : argument.option = .value name)
      (htext : argument.IsText text) (hplain : IsPlain text) : IsCluster [letter] [text] [argument]

/-- A **command line**, and what it gives. -/
inductive Spells : List String → List Argument → Prop where
  /-- No word is left. -/
  | nil : Spells [] []
  /-- The input. -/
  | input {path : String} {words : List String} {given : List Argument} (hpath : path ≠ "")
      (hplain : IsPlain path) (hrest : Spells words given) :
      Spells (path :: words) (.input path :: given)
  /-- A flag by its long name. -/
  | flag {long : String} {name : FlagName} {words : List String} {given : List Argument}
      (hlong : (long, .flag name) ∈ longNames) (hrest : Spells words given) :
      Spells (("--" ++ long) :: words) (.flag name :: given)
  /-- A value behind its long name and an equals sign. -/
  | assigned {long text : String} {name : ValueName} {argument : Argument} {words : List String}
      {given : List Argument} (hlong : (long, .value name) ∈ longNames)
      (hoption : argument.option = .value name) (htext : argument.IsText text)
      (hrest : Spells words given) :
      Spells (("--" ++ (long ++ ("=" ++ text))) :: words) (argument :: given)
  /-- A value in the word behind its long name. -/
  | apart {long text : String} {name : ValueName} {argument : Argument} {words : List String}
      {given : List Argument} (hlong : (long, .value name) ∈ longNames)
      (hoption : argument.option = .value name) (htext : argument.IsText text)
      (hplain : IsPlain text) (hrest : Spells words given) :
      Spells (("--" ++ long) :: text :: words) (argument :: given)
  /-- Letters behind a dash. -/
  | cluster {letters : List Char} {following words : List String} {added given : List Argument}
      (hletters : IsCluster letters following added) (hrest : Spells words given) :
      Spells (String.ofList ('-' :: letters) :: (following ++ words)) (added ++ given)
  /-- Behind two dashes alone every word is an input, whatever it begins with. -/
  | closed {paths : List String} (hpaths : ∀ path ∈ paths, path ≠ "") :
      Spells ("--" :: paths) (paths.map .input)

end CallForest
