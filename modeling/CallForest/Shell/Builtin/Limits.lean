import CallForest.Shell.Builtin.Options
import CallForest.Shell.Numeral

/-! # Limits of processes

A process has limits on what it uses. A limit has two values: the soft one is in force, and the hard
one bounds the soft one. A limit is shown and given in units of its own.

* `Shell.Resource.all`: what is limited.
* `Shell.Limit.changed`: a limit after a change.
* `Shell.ulimit`: shows or changes limits. -/

namespace CallForest

namespace Shell

/-- Something that is limited. -/
structure Resource where
  /-- The letter of its option. -/
  letter : Char
  /-- What it is called. -/
  name : String
  /-- How much a unit is. -/
  unit : Nat
  /-- The limit that processes begin with. -/
  limit : Limit

namespace Resource

/-- What is limited. -/
def all : List Resource := [
  ⟨'t', "time(seconds)", 1, ⟨Limit.none, Limit.none⟩⟩,
  ⟨'f', "file(blocks)", 512, ⟨Limit.none, Limit.none⟩⟩,
  ⟨'d', "data(kbytes)", 1024, ⟨Limit.none, Limit.none⟩⟩,
  ⟨'s', "stack(kbytes)", 1024, ⟨8388608, Limit.none⟩⟩,
  ⟨'c', "coredump(blocks)", 512, ⟨0, Limit.none⟩⟩,
  ⟨'m', "memory(kbytes)", 1024, ⟨Limit.none, Limit.none⟩⟩,
  ⟨'l', "locked memory(kbytes)", 1024, ⟨8388608, 8388608⟩⟩,
  ⟨'p', "process", 1, ⟨Limit.none, Limit.none⟩⟩,
  ⟨'n', "nofiles", 1, ⟨1048576, 1048576⟩⟩,
  ⟨'v', "vmemory(kbytes)", 1024, ⟨Limit.none, Limit.none⟩⟩,
  ⟨'w', "locks", 1, ⟨Limit.none, Limit.none⟩⟩,
  ⟨'r', "rtprio", 1, ⟨0, 0⟩⟩]

/-- What is limited if none is named. -/
def file : Resource := ⟨'f', "file(blocks)", 512, ⟨Limit.none, Limit.none⟩⟩

end Resource

/-- Why a limit cannot be changed. -/
inductive LimitFault where
  /-- The hard value would be below the soft one. -/
  | crossed
  /-- The hard value would be greater than before. -/
  | raised
  deriving DecidableEq, Repr

/-- How a fault is described. -/
def LimitFault.text : LimitFault → String
  | .crossed => "Invalid argument"
  | .raised => "Operation not permitted"

namespace Limit

/-- A value in units, as it is shown. -/
def text (unit value : Nat) : Octets :=
  if value = none then "unlimited".toList else Octets.ofNat (value / unit)

/-- The limit after its soft value, its hard value or both have been **changed**. -/
def changed (limit : Limit) (soft hard : Bool) (value : Nat) : Except LimitFault Limit :=
  let new : Limit :=
    ⟨if soft then value else limit.soft, if hard then value else limit.hard⟩
  if new.hard < new.soft then .error .crossed
  else if limit.hard < new.hard then .error .raised
  else .ok new

end Limit

/-- The value of a limit that a word stands for. -/
def limitValue? (unit : Nat) (word : Octets) : Option Nat :=
  if word = "unlimited".toList then some Limit.none
  else if word.all Char.isDigit then
    some (digitsValue 10 word * unit % (Limit.none + 1))
  else none

/-- Shows limits, or changes one. -/
def ulimit (words : List Octets) : ShellM Nat := do
  let given ← optionsOf (['H', 'S', 'a'] ++ Resource.all.map Resource.letter) [] words
  let letters := given.options.map (·.1)
  let side := (letters.filter ['H', 'S'].contains).getLast?
  let soft := side ≠ some 'H'
  let hard := side ≠ some 'S'
  let named := letters.filterMap fun letter => Resource.all.find? (·.letter = letter)
  let resource := named.getLast?.getD Resource.file
  let limitOf := fun (session : Session) (resource : Resource) =>
    (session.limits.lookup resource.letter).getD resource.limit
  let shown := fun (session : Session) (resource : Resource) =>
    let limit := limitOf session resource
    Limit.text resource.unit (if soft then limit.soft else limit.hard) ++ ['\n']
  let session ← get
  match given.arguments with
  | [] =>
    if given.has 'a' then
      for resource in Resource.all do
        let name := resource.name.toList
        print (name ++ List.replicate (20 - name.length) ' ' ++ ' ' :: shown session resource)
    else print (shown session resource)
    return 0
  | word :: more =>
    if given.has 'a' || !more.isEmpty then failText "too many arguments"
    else
      match limitValue? resource.unit word with
      | none => failText "bad number"
      | some value =>
        match (limitOf session resource).changed soft hard value with
        | .ok limit =>
          let others := session.limits.filter (·.1 ≠ resource.letter)
          set { session with limits := (resource.letter, limit) :: others }
          return 0
        | .error fault => fail ("error setting limit (".toList ++ fault.text.toList ++ [')'])

end Shell

end CallForest
