import CallForest.Shell.Pattern
import CallForest.Shell.Tool.Copy

/-! # Tools on characters

* `Shell.Tool.Listing`: the characters that a word lists.
* `Shell.Tool.tr`: copies the input with other characters. -/

namespace CallForest

namespace Shell

namespace Tool

/-! ## Lists of characters -/

/-- A character of a word, which has no special meaning if it was behind a backslash. -/
abbrev Spelt := Char × Bool

/-- The characters of a word, in which backslashes give characters their meaning. -/
def spelledOut : Octets → List Spelt
  | [] => []
  | '\\' :: rest =>
    match rest with
    | [] => [('\\', false)]
    | first :: more =>
      let isOctal := fun (character : Char) => '0' ≤ character && character ≤ '7'
      if isOctal first then
        match more with
        | second :: third :: behind =>
          let two := digitsValue 8 [first, second]
          if isOctal second && isOctal third && two * 8 + digitsValue 8 [third] < 256 then
            (Char.ofNat (two * 8 + digitsValue 8 [third]), true) :: spelledOut behind
          else if isOctal second then (Char.ofNat two, true) :: spelledOut (third :: behind)
          else (Char.ofNat (digitsValue 8 [first]), true) :: spelledOut (second :: third :: behind)
        | [second] =>
          if isOctal second then [(Char.ofNat (digitsValue 8 [first, second]), true)]
          else (Char.ofNat (digitsValue 8 [first]), true) :: spelledOut [second]
        | [] => [(Char.ofNat (digitsValue 8 [first]), true)]
      else
        let letters := [('n', '\n'), ('t', '\t'), ('r', '\r'), ('a', '\x07'), ('b', '\x08'),
          ('f', '\x0c'), ('v', '\x0b')]
        ((letters.lookup first).getD first, true) :: spelledOut more
  | first :: rest => (first, false) :: spelledOut rest

/-- The escapes of a word that could be characters of three digits, but are too great for that. -/
def doubtfulEscapes : Octets → List Octets
  | '\\' :: first :: second :: third :: rest =>
    let digits := [first, second, third]
    let isDoubtful := digits.all (fun digit => (digit? 8 digit).isSome) &&
      255 < digitsValue 8 digits
    if first = '\\' then doubtfulEscapes (second :: third :: rest)
    else (if isDoubtful then [digits] else []) ++ doubtfulEscapes (first :: second :: third :: rest)
  | _ :: rest => doubtfulEscapes rest
  | [] => []

/-- A piece of a list of characters. -/
inductive Listing where
  /-- A character. -/
  | octet (value : Char)
  /-- The characters from one to another. -/
  | range (first last : Char)
  /-- A class of characters. -/
  | named (name : String)
  /-- The characters that are as good as one. -/
  | equal (value : Char)
  /-- A character as often as given, or as often as is needed. -/
  | repeated (value : Char) (count : Nat)
  deriving DecidableEq

/-- Why a word is no list of characters. -/
inductive ListingFault where
  /-- The name of a class is missing. -/
  | noName
  /-- There is no class of a name. -/
  | noClass (name : Octets)
  /-- The character is missing that others are to be as good as. -/
  | noEqual
  /-- It is more than a character. -/
  | longEqual (text : Octets)
  /-- How often a character is repeated is no number. -/
  | badCount (text : Octets)
  /-- The last character of a range is in front of the first one. -/
  | decreasing (first last : Char)

/-- A character in a report about lists of characters. -/
def shownOctet (character : Char) : Octets :=
  if isShown character then [character] else spelling character

/-- How a fault is reported. -/
def ListingFault.text : ListingFault → Octets
  | .noName => "missing character class name '[::]'".toList
  | .noClass name => "invalid character class ".toList ++ quoted name
  | .noEqual => "missing equivalence class character '[==]'".toList
  | .longEqual text => text ++ ": equivalence class operand must be a single character".toList
  | .badCount text => "invalid repeat count ".toList ++ quoted text ++ " in [c*n] construct".toList
  | .decreasing first last =>
    "range-endpoints of '".toList ++ shownOctet first ++ ['-'] ++ shownOctet last ++
      "' are in reverse collating sequence order".toList

namespace Listing

/-- What is in front of a mark and a closing bracket, and what is behind them. -/
def closed? (mark : Char) : List Spelt → Option (List Spelt × List Spelt)
  | (first, bare) :: (second, closing) :: rest =>
    if (first, bare) = (mark, false) && (second, closing) = (']', false) then some ([], rest)
    else
      (closed? mark ((second, closing) :: rest)).map fun (inside, behind) =>
        ((first, bare) :: inside, behind)
  | _ => none

/-- Reads a character that is repeated, behind its opening bracket. -/
def readRepeated (text : List Spelt) :
    Except ListingFault (Option (Listing × List Spelt)) :=
  match text with
  | (value, _) :: ('*', false) :: rest =>
    let inside := rest.takeWhile fun (character, escaped) => !escaped && character ≠ ']'
    match rest.drop inside.length with
    | (']', false) :: behind =>
      let digits := inside.map Prod.fst
      let radix := if digits.head? = some '0' then 8 else 10
      if digits.all fun digit => (digit? radix digit).isSome then
        .ok (some (.repeated value (digitsValue radix digits), behind))
      else .error (.badCount digits)
    | _ => .ok none
  | _ => .ok none

/-- Whether a text is a star, digits and a closing bracket. -/
def isCount (text : List Spelt) : Bool :=
  match text with
  | ('*', false) :: rest =>
    (rest.dropWhile fun (digit, _) => digit.isDigit).head? = some (']', false)
  | _ => false

/-- Reads a piece in brackets, behind the opening one. -/
def readBracketed (text : List Spelt) : Except ListingFault (Option (Listing × List Spelt)) :=
  match text with
  | (mark, false) :: rest =>
    if mark = ':' || mark = '=' then
      match closed? mark rest with
      | none => readRepeated text
      | some (inside, behind) =>
        let name := inside.map Prod.fst
        if name.isEmpty then .error (if mark = ':' then .noName else .noEqual)
        else if mark = ':' then
          if (classes.lookup (String.ofList name)).isSome then
            .ok (some (.named (String.ofList name), behind))
          else if isCount rest then readRepeated text
          else .error (.noClass name)
        else
          match name with
          | [value] => .ok (some (.equal value, behind))
          | _ => if isCount rest then readRepeated text else .error (.longEqual name)
    else readRepeated text
  | _ => readRepeated text

/-- Reads the pieces of a list, at most `fuel` of them. -/
def read : Nat → List Spelt → Except ListingFault (List Listing)
  | 0, _ => .ok []
  | fuel + 1, text => do
    match text with
    | [] => return []
    | (first, escaped) :: rest =>
      let bracketed ← if first = '[' && !escaped && 2 ≤ rest.length then readBracketed rest
        else pure none
      match bracketed, rest with
      | some (piece, behind), _ => return piece :: (← read fuel behind)
      | none, ('-', false) :: (last, _) :: behind =>
        if last < first then throw (.decreasing first last)
        else return .range first last :: (← read fuel behind)
      | none, rest => return .octet first :: (← read fuel rest)

/-- The characters of a class. -/
def ofClass (name : String) : Octets :=
  ((List.range 256).map Char.ofNat).filter ((classes.lookup name).getD fun _ => false)

/-- The characters that a piece lists. A character that is repeated as often as is needed is
repeated `missing` times. -/
def octets (missing : Nat) : Listing → Octets
  | .octet value | .equal value => [value]
  | .range first last =>
    (List.range (last.toNat + 1 - first.toNat)).map fun place => Char.ofNat (first.toNat + place)
  | .named name => ofClass name
  | .repeated value 0 => List.replicate missing value
  | .repeated value count => List.replicate count value

end Listing

/-- The pieces that a word lists. -/
def listingsOf (word : Octets) : Except ListingFault (List Listing) :=
  Listing.read (word.length + 1) (spelledOut word)

/-! ## Exchanging -/

/-- Whether small or capital letters change their kind in some pieces. -/
def isCase (listing : Listing) : Bool := listing = .named "lower" || listing = .named "upper"

/-- The pieces of a list with the numbers of the characters in front of them. -/
def placed (listings : List Listing) : List (Nat × Listing) :=
  (listings.foldl (fun (placed, place) listing =>
    (placed ++ [(place, listing)], place + (listing.octets 0).length))
    (([], 0) : List (Nat × Listing) × Nat)).1

/-- What two lists do. -/
structure ExchangeRequest where
  /-- Whether the characters are meant that are not in the first list. -/
  others : Bool
  /-- Whether the first list is cut to the length of the second one. -/
  truncates : Bool
  /-- Whether characters are exchanged. -/
  exchanges : Bool

/-- Why a second list does not go with a first one, if it does not. -/
def listsFault? (request : ExchangeRequest) (source target : List Listing) : Option String :=
  let sourceSet := source.flatMap (·.octets 0)
  let size := if request.others then 256 - sourceSet.eraseDups.length else sourceSet.length
  let open? := fun (listing : Listing) => listing matches .repeated _ 0
  let loose := target.filter open?
  let targetSize := (target.flatMap (·.octets 0)).length
  let targetFull := if loose.isEmpty then targetSize else max size targetSize
  let hasClass := target.any fun listing => listing matches .named _
  let misaligned := !request.others && hasClass &&
    (placed target).any fun (place, listing) =>
      isCase listing && !(placed source).any fun (other, listing) => isCase listing && place = other
  let targets := target.flatMap (·.octets (targetFull - targetSize))
  let loss :=
    if request.others && source.any (fun listing => listing matches .named _) &&
        !(targets.length = size && targets.eraseDups.length ≤ 1) &&
        !(targets.length < size && !request.truncates && targets.eraseDups.length = 1) then
      some ("when translating with complemented character classes,\n" ++
        "string2 must map all characters in the domain to one")
    else none
  if source.any open? then some "the [c*] repeat construct may not appear in string1"
  else if 1 < loose.length then some "only one [c*] repeat construct may appear in string2"
  else if !request.exchanges then
    if loose.isEmpty then none
    else some "the [c*] construct may appear in string2 only when translating"
  else if target.any fun listing => listing matches .equal _ then
    some "[=c=] expressions may not appear in string2 when translating"
  else if target.any fun listing => (listing matches .named _) && !isCase listing then
    some ("when translating, the only character classes that may appear in\n" ++
      "string2 are 'upper' and 'lower'")
  else if misaligned then some "misaligned [:upper:] and/or [:lower:] construct"
  else if targetFull < size && !request.truncates then
    if targetSize = 0 && loose.isEmpty then
      some "when not truncating set1, string2 must be non-empty"
    else if target.getLast?.any isCase then
      some ("when translating with string1 longer than string2,\n" ++
        "the latter string must not end with a character class")
    else loss
  else loss

/-- A text in which no listed character is repeated in a row. -/
def squeeze (listed : Char → Bool) : Octets → Octets
  | first :: second :: rest =>
    if first = second && listed first then squeeze listed (second :: rest)
    else first :: squeeze listed (second :: rest)
  | text => text

/-- The characters of a first list. -/
def sourceOctets (request : ExchangeRequest) (source : List Listing) : Octets :=
  let listed := source.flatMap (·.octets 0)
  if request.others then ((List.range 256).map Char.ofNat).filter (!listed.contains ·) else listed

/-- The characters of a second list, which is to be as long as given if it can be. -/
def targetOctets (size : Nat) (target : List Listing) : Octets :=
  let fixed := (target.flatMap (·.octets 0)).length
  target.flatMap (·.octets (size - fixed))

/-- A text with characters exchanged. Of two characters for one the last one counts. -/
def exchange (truncates : Bool) (source target text : Octets) : Octets :=
  let source := if truncates then source.take target.length else source
  let full := target ++ List.replicate (source.length - target.length) (target.getLast?.getD 'x')
  let pairs := (source.zip full).reverse
  text.map fun character => (pairs.lookup character).getD character

/-! ## Input -/

/-- Prints the input after a change to it. -/
def changeInput (name : Octets) (change : Octets → Octets) : ShellM Nat := do
  match ← read 0 none with
  | .error fault => reportFault name "read error".toList fault 1
  | .ok text =>
    print (change text)
    return 0

/-- How characters are exchanged. -/
def trUsage : Usage where
  plain := ['c', 'C', 'd', 's', 't']
  long := [("complement", 'c'), ("delete", 'd'), ("squeeze-repeats", 's'), ("truncate-set1", 't')]
  ordered := true

/-- Reports that the number of lists is not right, and gives whether it is. -/
def checkOperands (name : Octets) (given : Given) : ShellM Bool := do
  let (deletes, squeezes) := (given.has 'd', given.has 's')
  let least := if deletes = squeezes then 2 else 1
  let most := if deletes && !squeezes then 1 else 2
  match given.arguments, given.arguments.drop most with
  | [], _ =>
    let _ ← lacksOperand name
    return false
  | [operand], _ =>
    if least = 1 then return true
    else
      report name ("missing operand after ".toList ++ quoted operand)
      let both := if squeezes then "both deleting and squeezing repeats" else "translating"
      warn ("Two strings must be given when ".toList ++ both.toList ++ ".\n".toList)
      adviseHelp name
      return false
  | _, extra :: _ =>
    report name ("extra operand ".toList ++ quoted extra)
    if given.arguments.length = 2 then
      warn "Only one string may be given when deleting without squeezing repeats.\n".toList
    adviseHelp name
    return false
  | _, [] => return true

/-- Copies the input **with other characters**, without some, or with fewer in a row. -/
def tr : Tool := fun words =>
  trUsage.run words fun name given => do
    if !(← checkOperands name given) then return 1
    else
      let (deletes, squeezes) := (given.has 'd', given.has 's')
      for word in given.arguments do
        for digits in doubtfulEscapes word do
          report name <| "warning: the ambiguous octal escape \\".toList ++ digits ++
            " is being\n\tinterpreted as the 2-byte sequence \\0".toList ++ digits.take 2 ++
            ", ".toList ++ digits.drop 2
        if ((word.reverse.takeWhile (· = '\\')).length) % 2 = 1 then
          report name
            "warning: an unescaped backslash at end of string is not portable".toList
      match given.arguments.mapM listingsOf with
      | .error fault =>
        report name fault.text
        return 1
      | .ok lists =>
        let (source, second) := (lists.headD [], lists.tail.head?)
        let target := second.getD []
        let exchanges := second.isSome && !deletes
        let request : ExchangeRequest := ⟨given.has 'c' || given.has 'C', given.has 't', exchanges⟩
        match listsFault? request source target with
        | some text =>
          report name text.toList
          return 1
        | none =>
          let sources := sourceOctets request source
          let targets := targetOctets sources.length target
          if exchanges then
            changeInput name fun text =>
              let text := exchange (given.has 't') sources targets text
              if squeezes then squeeze targets.contains text else text
          else if deletes then
            changeInput name fun text =>
              let text := text.filter (!sources.contains ·)
              if squeezes then squeeze targets.contains text else text
          else changeInput name (squeeze sources.contains)

end Tool

end Shell

end CallForest
