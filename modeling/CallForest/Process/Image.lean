import CallForest.FileSystem.Installed
import CallForest.Text.Octets

/-! # Images of processes

What is run when a path is launched: a program of the system, or a script. The first line of a
script names the program that is run in its place, with the path of the script behind its own
arguments; that program may be a script in turn.

* `Image`: a program of the system with its words.
* `Image.interpreter?`: the program that a script names.
* `FileSystem.image`: what is run when a path is launched. -/

namespace CallForest

/-- A program of the system with its words, the first of which is what it is called. -/
structure Image where
  /-- The program. -/
  program : String
  /-- Its words. -/
  words : List Octets
  deriving DecidableEq, Repr

namespace Image

/-- How much of a script is looked at. -/
def headLimit : Nat := 256

/-- How many scripts can stand for each other. -/
def scriptLimit : Nat := 5

/-- Whether a character separates the words of the first line of a script. -/
def isBlank (character : Char) : Bool := character = ' ' || character = '\t'

/-- A text without the blanks at its end. -/
def trimEnd (text : Octets) : Octets := (text.reverse.dropWhile isBlank).reverse

/-- The program that a line names, and the rest of the line behind blanks if there is one. -/
def splitLine (line : Octets) : Octets × Option Octets :=
  let named := line.dropWhile isBlank
  let name := named.takeWhile fun character => !isBlank character
  let behind := named.drop name.length
  (name, if behind.isEmpty then none else some (behind.dropWhile isBlank))

/-- The **program that a script names**, and the argument for it. The line must have an end, unless
the script ends first; a line that is too long is cut, but not within the name of the program. -/
def interpreter? (content : Octets) : Option (Octets × Option Octets) :=
  match content.take headLimit with
  | '#' :: '!' :: head =>
    let line := head.takeWhile fun character => character ≠ '\n' && character ≠ '\x00'
    let named := line.dropWhile isBlank
    match head.drop line.length with
    | '\n' :: _ => if named.isEmpty then none else some (splitLine (trimEnd line))
    | ended =>
      if ended.isEmpty && headLimit ≤ content.length then
        if named.all fun character => !isBlank character then none
        else some (splitLine (trimEnd (line.take (headLimit - 3))))
      else some (splitLine line)
  | _ => none

end Image

namespace FileSystem

/-- What is run in place of a script, after at most `fuel` more scripts. -/
def imageWithin (files : FileSystem) : Nat → String → List Octets → Except SystemFault Image
  | fuel, path, words => do
    match ← files.find path with
    | .program program =>
      return ⟨program, words⟩
    | .file content true =>
      match Image.interpreter? (Octets.ofBytes content) with
      | none => throw .notProgram
      | some (name, argument) =>
        let interpreter := if name.isEmpty then "." else Octets.toText name
        let words := name :: argument.toList ++ Octets.ofText path :: words.tail
        match fuel with
        | 0 =>
          let _ ← files.find interpreter
          throw .tooManyLinks
        | fuel + 1 => files.imageWithin fuel interpreter words
    | .file _ false | .directory | .sink => throw .denied

/-- **What is run when a path is launched** with words, the first of which is what it is called. -/
def image (files : FileSystem) (path : String) (words : List Octets) : Except SystemFault Image :=
  files.imageWithin Image.scriptLimit path words

end FileSystem

end CallForest
