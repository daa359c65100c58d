import AccessControl.Time.Duration
/-!
# Points in time

A timestamp is a date and a time of day at some distance from universal time. Its text is the
internet format of dates: `2024-01-02T03:04:05.5+01:00`, with `Z` where the distance is nothing. A
reader takes any single character between date and time, and any number of digits of a fraction,
of which the first nine count.

Two timestamps are compared by their `instant`. A leap second stands for the last nanosecond before
it, and is taken only at the end of a month in universal time.
-/
namespace AccessControl

/-- A date and a time of day, at a distance from universal time. -/
structure Timestamp where
  /-- The year. -/
  year : Nat
  /-- The month, from one. -/
  month : Nat
  /-- The day of the month, from one. -/
  day : Nat
  /-- The second of the day, from zero. -/
  second : Nat
  /-- The nanosecond of the second, from zero. -/
  nanosecond : Nat
  /-- How many minutes ahead of universal time the date and time of day are. -/
  offset : Int
  deriving DecidableEq, Repr

namespace Timestamp

/-! ## The calendar -/

/-- Every fourth year is a leap year, but of the centuries only every fourth. -/
def isLeapYear (year : Nat) : Bool := year % 4 = 0 && (year % 100 ≠ 0 || year % 400 = 0)

/-- The number of days in a month. -/
def daysInMonth (year month : Nat) : Nat :=
  if month = 2 then (if isLeapYear year then 29 else 28)
  else if month = 4 ∨ month = 6 ∨ month = 9 ∨ month = 11 then 30
  else 31

/-- The number of days from the start of year zero to the start of a year. -/
def daysBeforeYear (year : Nat) : Nat :=
  365 * year + (year + 3) / 4 - (year + 99) / 100 + (year + 399) / 400

/-- The number of days from the start of year zero to the start of a month; the months go on to be
counted after the twelfth. -/
def daysBeforeMonth (year month : Nat) : Nat :=
  (List.range (month - 1)).foldl (fun days m => days + daysInMonth year (m + 1))
    (daysBeforeYear year)

/-- The seconds from the start of year zero, in universal time. -/
def instantSeconds (t : Timestamp) : Int :=
  (daysBeforeMonth t.year t.month + (t.day - 1) : Nat) * 86400 + t.second - t.offset * 60

/-- The nanoseconds from the start of year zero, in universal time. -/
def instant (t : Timestamp) : Int := t.instantSeconds * Duration.perSecond + t.nanosecond

/-- Whether the second after the timestamp's starts a month in universal time. -/
def endsMonth (t : Timestamp) : Bool :=
  let next := t.instantSeconds + 1
  next = (daysBeforeMonth t.year t.month : Int) * 86400 ||
    next = (daysBeforeMonth t.year (t.month + 1) : Int) * 86400

/-! ## Text -/

/-- A number in decimal, with zeros in front up to the given width. -/
def padded (width n : Nat) : String :=
  let ds := Nat.toDigits 10 n
  String.ofList (List.replicate (width - ds.length) '0' ++ ds)

/-- The fraction of a second, without zeros at its end. -/
def fractionText (nanosecond : Nat) : String :=
  if nanosecond = 0 then ""
  else
    let ds := (padded 9 nanosecond).toList
    "." ++ String.ofList (ds.reverse.dropWhile (· = '0')).reverse

/-- The distance from universal time. -/
def offsetText (offset : Int) : String :=
  if offset = 0 then "Z"
  else
    (if offset < 0 then "-" else "+") ++ padded 2 (offset.natAbs / 60) ++ ":" ++
      padded 2 (offset.natAbs % 60)

/-- The text of a timestamp. -/
def text (t : Timestamp) : String :=
  padded 4 t.year ++ "-" ++ padded 2 t.month ++ "-" ++ padded 2 t.day ++ "T" ++
    padded 2 (t.second / 3600) ++ ":" ++ padded 2 (t.second / 60 % 60) ++ ":" ++
    padded 2 (t.second % 60) ++ fractionText t.nanosecond ++ offsetText t.offset

/-- The number in the next `width` digits, and the rest. -/
def digits? (width : Nat) (cs : List Char) : Option (Nat × List Char) :=
  let ds := cs.take width
  if ds.length = width ∧ ds.all Char.isDigit then
    some (ds.foldl (fun n c => n * 10 + (c.toNat - '0'.toNat)) 0, cs.drop width)
  else none

/-- What follows a character. -/
def after? (c : Char) : List Char → Option (List Char)
  | d :: rest => if d = c then some rest else none
  | [] => none

/-- The nanoseconds of a fraction, if one follows, and the rest. -/
def fraction? : List Char → Option (Nat × List Char)
  | '.' :: cs =>
    let ds := cs.takeWhile Char.isDigit
    if ds.isEmpty then none
    else do
      let (n, _) ← digits? 9 (ds ++ List.replicate 9 '0')
      return (n, cs.dropWhile Char.isDigit)
  | cs => some (0, cs)

/-- The distance from universal time, which ends the text. -/
def offset? : List Char → Option Int
  | ['Z'] | ['z'] => some 0
  | sign :: cs => do
    let (hours, cs) ← digits? 2 cs
    let (minutes, cs) ← digits? 2 (← after? ':' cs)
    if cs = [] ∧ hours ≤ 23 ∧ minutes ≤ 59 then
      let distance : Int := (hours * 60 + minutes : Nat)
      if sign = '+' then some distance else if sign = '-' then some (-distance) else none
    else none
  | [] => none

/-- The timestamp that a text holds. -/
def ofText? (s : String) : Option Timestamp := do
  let (year, cs) ← digits? 4 s.toList
  let (month, cs) ← digits? 2 (← after? '-' cs)
  let (day, cs) ← digits? 2 (← after? '-' cs)
  let cs ← match cs with
    | separator :: cs => if separator.toNat < 128 then some cs else none
    | [] => none
  let (hour, cs) ← digits? 2 cs
  let (minute, cs) ← digits? 2 (← after? ':' cs)
  let (second, cs) ← digits? 2 (← after? ':' cs)
  let (nanosecond, cs) ← fraction? cs
  let offset ← offset? cs
  if month < 1 ∨ 12 < month ∨ day < 1 ∨ daysInMonth year month < day then none
  if 23 < hour ∨ 59 < minute then none
  let clock := hour * 3600 + minute * 60
  if second < 60 then return ⟨year, month, day, clock + second, nanosecond, offset⟩
  let last : Timestamp := ⟨year, month, day, clock + 59, 999999999, offset⟩
  if second = 60 ∧ last.endsMonth then return last else none

/-- The wire form of a timestamp. -/
def toJson (t : Timestamp) : Json := .str t.text

/-- The timestamp that a wire form holds. -/
def decode? (j : Json) : Option Timestamp := j.str?.bind ofText?

end Timestamp

end AccessControl
