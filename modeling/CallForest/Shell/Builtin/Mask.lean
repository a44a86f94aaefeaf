import CallForest.Shell.Builtin.Options
import CallForest.Shell.Numeral

/-! # The mask of new files

The mask holds the permissions that new files do not get: three bits each for the user, the group
and the others. It is written in octal digits, or as changes of the permissions that are left.

* `Shell.Permissions.ofClauses?`: permissions after changes to them.
* `Shell.umask`: prints or changes the mask. -/

namespace CallForest

namespace Shell

namespace Permissions

/-- All permissions. -/
def all : Nat := 0o777

/-- The lowest bit of the permissions of a party. -/
def partyBit : Char → Nat
  | 'u' => 0o100
  | 'g' => 0o010
  | 'o' => 0o001
  | _ => 0o111

/-- The permissions that a letter stands for. -/
def ofLetter (mode : Nat) : Char → Nat
  | 'r' => 4
  | 'w' => 2
  | 'x' => 1
  | 'u' => mode / 64 % 8
  | 'g' => mode / 8 % 8
  | 'o' => mode % 8
  | 'X' => if mode &&& 0o111 = 0 then 0 else 1
  | _ => 0

/-- Permissions after a change. -/
def change (mode parties : Nat) (operator : Char) (letters : Octets) : Nat :=
  let meant := letters.foldl (fun bits letter => bits ||| ofLetter mode letter) 0
  let bits := meant * parties
  let without := fun (taken : Nat) => mode - (mode &&& taken)
  if operator = '-' then without bits
  else if operator = '=' then bits ||| without (7 * parties)
  else mode ||| bits

/-- Permissions after changes, at most `fuel` of them, to those of some parties. -/
def afterClauses? : Nat → Nat → Nat → Octets → Option Nat
  | 0, _, _, _ => none
  | _, mode, _, [] => some mode
  | fuel + 1, mode, parties, text =>
    let named := text.takeWhile ['a', 'u', 'g', 'o'].contains
    let parties := named.foldl (fun bits party => bits ||| partyBit party) parties
    let parties := if parties = 0 then partyBit 'a' else parties
    match text.drop named.length with
    | [] => none
    | operator :: behind =>
      let letters := behind.takeWhile ['r', 'w', 'x', 'u', 'g', 'o', 'X', 's'].contains
      let mode := change mode parties operator letters
      if !(['=', '+', '-'].contains operator) then none
      else
        match behind.drop letters.length with
        | ',' :: rest => afterClauses? fuel mode 0 rest
        | rest => if rest.isEmpty || ['=', '+', '-'].contains (rest.headD ' ') then
            afterClauses? fuel mode parties rest
          else none

/-- **Permissions after changes** to them. -/
def ofClauses? (mode : Nat) (text : Octets) : Option Nat :=
  afterClauses? (text.length + 1) mode 0 text

/-- Permissions as letters. -/
def letters (mode : Nat) : Octets :=
  let party := fun (name : Char) (bits : Nat) =>
    [name, '='] ++ (if bits &&& 4 = 0 then [] else ['r']) ++
      (if bits &&& 2 = 0 then [] else ['w']) ++
      if bits &&& 1 = 0 then [] else ['x']
  party 'u' (mode / 64 % 8) ++ ',' :: party 'g' (mode / 8 % 8) ++ ',' :: party 'o' (mode % 8)

end Permissions

/-- Prints the mask of new files, or changes it. -/
def umask (words : List Octets) : ShellM Nat := do
  let given ← optionsOf ['S'] [] words
  let mask := (← get).mask
  match given.arguments with
  | [] =>
    if given.has 'S' then print (Permissions.letters (Permissions.all - mask) ++ ['\n'])
    else print ('0' :: [mask / 64, mask / 8 % 8, mask % 8].flatMap Octets.ofNat ++ ['\n'])
    return 0
  | text :: _ =>
    if (text.headD ' ').isDigit then
      if text.all fun digit => (digit? 8 digit).isSome then
        modify fun session => { session with mask := digitsValue 8 text % 512 }
        return 0
      else fail ("Illegal number: ".toList ++ text)
    else
      match Permissions.ofClauses? (Permissions.all - mask) text with
      | some mode =>
        modify fun session => { session with mask := Permissions.all - mode }
        return 0
      | none => fail ("Illegal mode: ".toList ++ text)

end Shell

end CallForest
