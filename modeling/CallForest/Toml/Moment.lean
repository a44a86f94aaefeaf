import CallForest.Toml.Line

/-! # Dates and times of TOML documents

A moment is a date, a time of day, or a date and a time with or without the offset from universal
time. A date and a time are known by their first separator; from there on they must be complete.

* `Toml.twoDigits`: the reader of a number of two digits.
* `Toml.date?`, `Toml.time?`, `Toml.offset?`: the readers of the parts.
* `Toml.moment?`: the reader of a moment, where one begins. -/

namespace CallForest

namespace Toml

/-- Reads a number of two digits in a closed range. -/
def twoDigits (least greatest : Nat) : Reader Nat
  | tens :: ones :: rest =>
    let value := (tens.toNat - '0'.toNat) * 10 + (ones.toNat - '0'.toNat)
    if tens.isDigit && ones.isDigit && least ≤ value && value ≤ greatest then
      .ok (Step.one value).behind
    else .error (.here (tens :: ones :: rest))
  | chars => .error (.here chars)

/-- Whether a year has a leap day. -/
def isLeapYear (year : Nat) : Bool := year % 4 = 0 && (year % 100 ≠ 0 || year % 400 = 0)

/-- The number of days of a month. -/
def daysOf (year month : Nat) : Nat :=
  if month = 2 then (if isLeapYear year then 29 else 28)
  else if month = 4 || month = 6 || month = 9 || month = 11 then 30
  else 31

/-- A year of four digits with the dash behind it. -/
def year? : (chars : List Char) → Option (Step chars Nat)
  | a :: b :: c :: d :: '-' :: _ =>
    if [a, b, c, d].all Char.isDigit then
      let year := [a, b, c, d].foldl (fun year digit => year * 10 + (digit.toNat - '0'.toNat)) 0
      some (Step.one year).behind.behind.behind.behind
    else none
  | _ => none

/-- Reads a date, if a year begins one. -/
def date? (chars : List Char) : Option (Except Fault (Step chars Unit)) :=
  (year? chars).map fun year => do
    let month ← twoDigits 1 12 year.rest
    let dash ← mark '-' month.rest
    let day ← twoDigits 1 (daysOf year.value month.value) dash.rest
    return year.next (month.next (dash.next (day.map fun _ => ())))

/-- Reads the fraction of a second, if there is one. -/
def secondFraction? : (chars : List Char) → Option (Step chars Unit)
  | '.' :: digit :: rest =>
    if digit.isDigit then
      some ⟨(), rest.dropWhile Char.isDigit,
        Nat.lt_succ_of_le (Nat.le_succ_of_le (length_dropWhile_le Char.isDigit rest))⟩
    else none
  | _ => none

/-- An hour with the colon behind it. -/
def hour? (chars : List Char) : Option (Step chars Unit) :=
  match twoDigits 0 23 chars with
  | .error _ => none
  | .ok hour =>
    match mark ':' hour.rest with
    | .error _ => none
    | .ok colon => some (hour.next colon)

/-- Reads a time of day, if an hour begins one. -/
def time? (chars : List Char) : Option (Except Fault (Step chars Unit)) :=
  (hour? chars).map fun hour => do
    let minute ← twoDigits 0 59 hour.rest
    let colon ← mark ':' minute.rest
    let second ← twoDigits 0 60 colon.rest
    let second := (secondFraction? second.rest).elim (second.map fun _ => ()) second.next
    return hour.next (minute.next (colon.next second))

/-- Reads an offset from universal time, if there is one. -/
def offset? : (chars : List Char) → Option (Except Fault (Step chars Unit))
  | [] => none
  | first :: rest =>
    if first = 'Z' || first = 'z' then some (.ok (.one ()))
    else if first = '+' || first = '-' then
      some do
        let hour ← twoDigits 0 23 rest
        let colon ← mark ':' hour.rest
        let minute ← twoDigits 0 59 colon.rest
        return (hour.next (colon.next (minute.map fun _ => ()))).behind
    else none

/-- Reads a time of day behind a date, if there is one. A letter or a blank separates them. -/
def timeBehindDate? : (chars : List Char) → Option (Except Fault (Step chars Unit))
  | [] => none
  | first :: rest =>
    if first = 'T' || first = 't' || first = ' ' then
      (time? rest).map fun time => do
        let time ← time
        match offset? time.rest with
        | none => return time.behind
        | some offset => return (time.next (← offset)).behind
    else none

/-- Reads a **moment**, if one begins here. -/
def moment? (chars : List Char) : Option (Except Fault (Step chars Unit)) :=
  match date? chars with
  | none => time? chars
  | some (.error fault) => some (.error fault)
  | some (.ok date) =>
    match timeBehindDate? date.rest with
    | none => some (.ok date)
    | some time => some (time.map date.next)

end Toml

end CallForest
