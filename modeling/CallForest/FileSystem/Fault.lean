/-! # Faults of the system

Why the system refuses to read, write or run something, in the system's own words and with its
number.

* `SystemFault`, `SystemFault.message`: the faults and their reports.
* `SystemFault.text`: what a fault is called.
* `SystemFault.ofNumber`: the fault of a number. -/

namespace CallForest

/-- A fault of the system. -/
inductive SystemFault where
  /-- There is nothing under the path. -/
  | notFound
  /-- The executable file is no program. -/
  | notProgram
  /-- There is no stream for a descriptor. -/
  | badDescriptor
  /-- The file is no executable one. -/
  | denied
  /-- There is something under the path already. -/
  | alreadyThere
  /-- The path leads through something that is no directory. -/
  | notDirectory
  /-- The path leads to a directory. -/
  | isDirectory
  /-- What is asked for makes no sense. -/
  | invalid
  /-- The path, or one of its parts, is too long. -/
  | nameTooLong
  /-- Nobody reads what is written. -/
  | brokenPipe
  /-- There is something in the directory. -/
  | notEmpty
  /-- What is to be changed is needed as it is. -/
  | busy
  /-- One program names another one too often. -/
  | tooManyLinks
  /-- The path holds the character that ends texts. -/
  | nulInPath
  /-- The command holds the character that ends texts. -/
  | nulInCommand
  /-- The file is not well-formed UTF-8. -/
  | notUtf8
  /-- Another fault with a number. -/
  | other (text : String) (number : Nat)
  deriving DecidableEq, Repr

namespace SystemFault

/-- The faults that have a number and a constructor of their own. -/
def numbered : List (SystemFault × String × Nat) := [
  (.notFound, "No such file or directory", 2), (.notProgram, "Exec format error", 8),
  (.badDescriptor, "Bad file descriptor", 9), (.denied, "Permission denied", 13),
  (.busy, "Device or resource busy", 16), (.alreadyThere, "File exists", 17),
  (.notDirectory, "Not a directory", 20), (.isDirectory, "Is a directory", 21),
  (.invalid, "Invalid argument", 22), (.brokenPipe, "Broken pipe", 32),
  (.nameTooLong, "File name too long", 36), (.notEmpty, "Directory not empty", 39),
  (.tooManyLinks, "Too many levels of symbolic links", 40)]

/-- What a fault is called, and its number if it has one. -/
def naming (fault : SystemFault) : String × Option Nat :=
  match fault with
  | .nulInPath => ("file name contained an unexpected NUL byte", none)
  | .nulInCommand => ("nul byte found in provided data", none)
  | .notUtf8 => ("stream did not contain valid UTF-8", none)
  | .other text number => (text, some number)
  | fault =>
    match numbered.lookup fault with
    | some (text, number) => (text, some number)
    | none => ("", none)

/-- What a fault is called. -/
def text (fault : SystemFault) : String := fault.naming.1

/-- How a fault is reported: with its number, if it has one. -/
def message (fault : SystemFault) : String :=
  match fault.naming with
  | (text, some number) => text ++ " (os error " ++ toString number ++ ")"
  | (text, none) => text

/-- The fault of a number, which is described by a text if it has no constructor of its own. -/
def ofNumber (text : String) (number : Nat) : SystemFault :=
  match numbered.find? fun (_, _, known) => known = number with
  | some (fault, _) => fault
  | none => .other text number

end SystemFault

end CallForest
