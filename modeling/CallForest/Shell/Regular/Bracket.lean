import CallForest.Shell.Regular

/-! # Lists between brackets

Brackets in a regular expression list characters, one by one, from one to another, or by the names
of classes. A backslash means nothing there.

* `Shell.Regular.ListMember`: what a list is made of.
* `Shell.Regular.bracketed`: reads a list.
* `Shell.Regular.looksNamed`: whether a list looks like the name of a class. -/

namespace CallForest

namespace Shell

namespace Regular

/-- What a list between brackets is made of. -/
inductive ListMember where
  /-- A character. -/
  | single (value : Char)
  /-- What is called by a name. -/
  | symbol (name : Octets)
  /-- What counts as the same as what is called by a name. -/
  | alike (name : Octets)
  /-- A class of characters. -/
  | kind (name : Octets)

/-- The name up to a mark in front of a bracket, and what is behind the bracket. -/
def nameUpTo (mark : Char) : Octets → Option (Octets × Octets)
  | first :: second :: rest =>
    if first = mark && second = ']' then some ([], rest)
    else (nameUpTo mark (second :: rest)).map fun (name, behind) => (first :: name, behind)
  | _ => none

/-- How long a name between brackets is at most. -/
def nameLimit : Nat := 31

/-- The member at the head of a list, and what is behind it. A hyphen that is not `free` can only be
the last one. -/
def listMember (free : Bool) : Octets → Except RegularFault (ListMember × Octets)
  | [] => .error .openBracket
  | '[' :: mark :: rest =>
    if !(['.', '=', ':'].contains mark) then .ok (.single '[', mark :: rest)
    else
      match nameUpTo mark rest with
      | none => .error .openBracket
      | some (name, behind) =>
        if nameLimit < name.length then .error .openBracket
        else if mark = ':' then .ok (.kind name, behind)
        else .ok (if mark = '=' then .alike name else .symbol name, behind)
  | '-' :: rest =>
    if free || rest.head? = some ']' then .ok (.single '-', rest) else .error .badRange
  | value :: rest => .ok (.single value, rest)

/-- What a member of a list stands for. -/
def ListMember.listed : ListMember → Except RegularFault Listed
  | .single value => .ok (.range value value)
  | .symbol [value] | .alike [value] => .ok (.range value value)
  | .symbol _ | .alike _ => .error .noCharacter
  | .kind name =>
    let name := String.ofList name
    if (classes.lookup name).isSome then .ok (.named name) else .error .noClass

/-- The character that a member of a list stands for at one end of a range. -/
def ListMember.limit : ListMember → Except RegularFault Char
  | .single value | .symbol [value] => .ok value
  | .symbol _ => .error .noCharacter
  | .alike _ | .kind _ => .error .badRange

/-- The characters from one member of a list to another. -/
def rangeListed (first last : ListMember) : Except RegularFault Listed := do
  if first matches .alike _ | .kind _ then throw .badRange
  if last matches .alike _ | .kind _ then throw .badRange
  let start ← first.limit
  let finish ← last.limit
  if finish < start then throw .badRange else return .range start finish

/-- Whether a member of a list can begin a range. -/
def ListMember.begins : ListMember → Bool
  | .single _ | .symbol _ => true
  | .alike _ | .kind _ => false

/-- What is listed up to a bracket, at most `fuel` members, and what is behind the bracket. The
`first` member is listed whatever it is. -/
def listItems : Nat → Bool → Octets → Except RegularFault (List Listed × Octets)
  | 0, _, _ => .error .openBracket
  | fuel + 1, first, text => do
    let (member, rest) ← listMember first text
    if rest.isEmpty && member.begins then throw .openBracket
    let (item, rest) ← match rest with
      | '-' :: next :: behind =>
        if !member.begins || next = ']' then pure (← member.listed, rest)
        else
          let (last, behind) ← listMember true (next :: behind)
          pure (← rangeListed member last, behind)
      | ['-'] => if member.begins then throw .openBracket else pure (← member.listed, rest)
      | _ => pure (← member.listed, rest)
    match rest with
    | [] => throw .openBracket
    | ']' :: behind => return ([item], behind)
    | _ =>
      let (items, behind) ← listItems fuel false rest
      return (item :: items, behind)

/-- The list behind an opening bracket, whether characters that are not in it are meant, and what is
behind the list. -/
def bracketed (text : Octets) : Except RegularFault (Bool × List Listed × Octets) :=
  let negated := text.head? = some '^'
  let inside := if negated then text.tail else text
  if inside.isEmpty then .error .bareBracket
  else (listItems (inside.length + 1) true inside).map fun (items, rest) => (negated, items, rest)

/-- Whether a list behind an opening bracket **looks like the name of a class**: it begins and ends
with a colon and has other characters between them. -/
def looksNamed (text : Octets) : Bool :=
  let inside := if text.head? = some '^' then text.tail else text
  let listed := inside.takeWhile (· ≠ ']')
  let opens := fun (first, second) => first = '[' && ['.', '=', ':'].contains second
  listed.head? = some ':' && listed.getLast? = some ':' && listed.any (· ≠ ':') &&
    !listed.tail.dropLast.contains '-' && !(listed.zip listed.tail).any opens

end Regular

end Shell

end CallForest
