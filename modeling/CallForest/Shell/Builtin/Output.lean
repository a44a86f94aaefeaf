import CallForest.Shell.Builtin.Options
import CallForest.Shell.Conversion
import CallForest.Shell.Escape

/-! # Commands that print

One command prints its words on a line. The other one fills a format, which it uses again as long as
there are words for it.

* `Shell.echo`: prints words.
* `Shell.printf`: prints a format filled with words. -/

namespace CallForest

namespace Shell

/-- Prints words on a line, unless the first one forbids its end. -/
def echo (words : List Octets) : ShellM Nat := do
  let (words, ending) :=
    if words.head? = some "-n".toList then (words.tail, []) else (words, ['\n'])
  let (text, stopped) := unescaped ([' '].intercalate words)
  print (if stopped then text else text ++ ending)
  return 0

/-! ## Formats -/

/-- What filling a format has led to. -/
structure Filling where
  /-- The words that are left. -/
  words : List Octets
  /-- The status. -/
  status : Nat
  /-- Whether nothing more is printed. -/
  stopped : Bool

/-- Reports that a word is no number, or only begins with one. -/
def checkNumber (word rest : Octets) (tooGreat : Bool) (filling : Filling) : ShellM Filling := do
  if !rest.isEmpty then
    complain <| word ++
      (if rest = word then ": expected numeric value" else ": not completely converted").toList
    return { filling with status := 1 }
  else if tooGreat then
    complain (word ++ ": Numerical result out of range".toList)
    return { filling with status := 1 }
  else return filling

/-- Takes an integer from the words. -/
def takeInteger (low high : Int) (filling : Filling) : ShellM (Int × Filling) := do
  match filling.words with
  | [] => return (0, filling)
  | word :: words =>
    let filling := { filling with words }
    match word with
    | '\'' :: rest | '"' :: rest => return (((rest.headD '\x00').toNat : Int), filling)
    | word =>
      let numeral := leadingNumeral true word
      let rest := if numeral.found then numeral.rest else word
      let value := max low (min high numeral.value)
      return (value, ← checkNumber word rest (value ≠ numeral.value) filling)

/-- Takes a number with a fraction from the words: its sign and its magnitude. -/
def takeFraction (filling : Filling) : ShellM (Bool × Nat × Filling) := do
  match filling.words with
  | [] => return (false, 0, filling)
  | word :: words =>
    let filling := { filling with words }
    match word with
    | '\'' :: rest | '"' :: rest =>
      return (false, Binary64.ofNat (rest.headD '\x00').toNat, filling)
    | word =>
      let (negative, magnitude, rest) := leadingFraction word
      return (negative, magnitude, ← checkNumber word rest false filling)

/-- Prints a word or a number as a conversion says. -/
def convert (conversion : Conversion) (filling : Filling) : ShellM Filling := do
  let (word, words) := (filling.words.headD [], filling.words.tail)
  match conversion.letter with
  | 's' =>
    print (conversion.text word)
    return { filling with words }
  | 'c' =>
    print (conversion.pad [word.headD '\x00'])
    return { filling with words }
  | 'b' =>
    let (text, stopped) := unescaped word
    print (conversion.text text)
    return { filling with words, stopped }
  | 'd' | 'i' =>
    let (value, filling) ← takeInteger least greatest filling
    print (conversion.integer value)
    return filling
  | 'o' | 'u' | 'x' | 'X' =>
    let (value, filling) ← takeInteger (-18446744073709551615) 18446744073709551615 filling
    print (conversion.natural (value % 18446744073709551616).toNat)
    return filling
  | _ =>
    let (negative, magnitude, filling) ← takeFraction filling
    print (conversion.fraction negative magnitude)
    return filling

/-- Takes a width or a precision: digits, or a star for which a word stands. -/
def takeSize (format : Octets) (filling : Filling) : ShellM (Option Int × Octets × Filling) := do
  match format with
  | '*' :: rest =>
    let (value, filling) ← takeInteger least greatest filling
    return (some value, rest, filling)
  | format =>
    let digits := format.takeWhile Char.isDigit
    let size := if digits.isEmpty then none else some (digitsValue 10 digits : Int)
    return (size, format.drop digits.length, filling)

/-- Prints what a conversion behind a percent sign asks for, and gives the format behind it. -/
def fillConversion (format : Octets) (filling : Filling) : ShellM (Octets × Filling) := do
  let flags := format.takeWhile ['#', '-', '+', ' ', '0'].contains
  let (width, behind, filling) ← takeSize (format.drop flags.length) filling
  let (precision, behind, filling) ← match behind with
    | '.' :: rest =>
      let (precision, behind, filling) ← takeSize rest filling
      pure (some (precision.getD 0), behind, filling)
    | behind => pure (none, behind, filling)
  match behind with
  | [] => failText "missing format character"
  | letter :: rest =>
    if "bcsdiouxXeEfFgG".toList.contains letter then
      let width := width.getD 0
      let flags := if width < 0 then '-' :: flags else flags
      let precision :=
        precision.bind fun precision => if precision < 0 then none else some precision.toNat
      return (rest, ← convert ⟨flags, width.natAbs, precision, letter⟩ filling)
    else
      let spelt := format.take (format.length - rest.length)
      fail ('%' :: spelt ++ ": invalid directive".toList)

/-- Prints a format once, at most `fuel` pieces of it. -/
def fillOnce : Nat → Octets → Filling → ShellM Filling
  | 0, _, filling => return filling
  | fuel + 1, format, filling => do
    if filling.stopped then return filling
    else
      match format with
      | [] => return filling
      | '\\' :: rest =>
        let (character, taken) := escape rest
        print [character]
        fillOnce fuel (rest.drop taken) filling
      | '%' :: '%' :: rest =>
        print ['%']
        fillOnce fuel rest filling
      | '%' :: rest =>
        let (rest, filling) ← fillConversion rest filling
        fillOnce fuel rest filling
      | first :: rest =>
        print [first]
        fillOnce fuel rest filling

/-- Prints a format as often as there are words for it, at most `fuel` times. -/
def fillAgain (format : Octets) : Nat → Filling → ShellM Filling
  | 0, filling => return filling
  | fuel + 1, filling => do
    let filled ← fillOnce (format.length + 1) format filling
    if filled.stopped || filled.words.isEmpty || filled.words.length = filling.words.length then
      return filled
    else fillAgain format fuel filled

/-- Prints a **format filled with words**. -/
def printf (words : List Octets) : ShellM Nat := do
  match (← optionsOf [] [] words).arguments with
  | [] => failText "usage: printf format [arg ...]"
  | format :: words =>
    let filled ← fillAgain format (words.length + 1) ⟨words, 0, false⟩
    return filled.status

end Shell

end CallForest
