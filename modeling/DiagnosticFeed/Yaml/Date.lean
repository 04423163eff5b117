import DiagnosticFeed.Decimal.Reading
import DiagnosticFeed.Yaml.Fault

/-!
# Dates in YAML

The form of days and of times of day, and what makes one impossible.
-/

namespace DiagnosticFeed.Yaml

/-- A time of day, and how many minutes its time zone is away from the common one. -/
structure DayTime where
  hour : Nat
  minute : Nat
  second : Nat
  zone : Int := 0

/-- A day, and the time of day if it is given. -/
structure Stamp where
  year : Nat
  month : Nat
  day : Nat
  time : Option DayTime := none

/-! ## Forms -/

def numeral (ds : List Char) : Nat :=
  Decimal.ofDigits (ds.map fun d ↦ d.toNat - 48)

/-- A number of at least so many digits and at most so many more, and what is behind it. -/
def takeNumeral? (least more : Nat) (cs : List Char) : Option (Nat × List Char) :=
  let ds := (cs.take (least + more)).takeWhile Char.isDigit
  if ds.length < least then none else some (numeral ds, cs.drop ds.length)

/-- What is behind a character that must come. -/
def after? (c : Char) : List Char → Option (List Char)
  | d :: cs => if c == d then some cs else none
  | [] => none

/-- The minutes of a time zone without its sign. -/
def zoneSpan? (cs : List Char) : Option Nat := do
  let (hours, cs) ← takeNumeral? 1 1 cs
  if cs.isEmpty then return 60 * hours
  let (minutes, cs) ← takeNumeral? 2 0 (← after? ':' cs)
  if cs.isEmpty then return 60 * hours + minutes else none

/-- How many minutes a time zone is away from the common one. -/
def zone? : List Char → Option Int
  | ['Z'] => some 0
  | '+' :: cs => (zoneSpan? cs).map fun n ↦ (n : Int)
  | '-' :: cs => (zoneSpan? cs).map fun n ↦ -(n : Int)
  | _ => none

/-- Blanks within a date. -/
def isDateBlank (c : Char) : Bool :=
  c == ' ' || c == '\t'

/-- The time of day that is all of a text, with a fraction and a time zone if need be. -/
def time? (cs : List Char) : Option DayTime := do
  let (hour, cs) ← takeNumeral? 1 1 cs
  let (minute, cs) ← takeNumeral? 2 0 (← after? ':' cs)
  let (second, cs) ← takeNumeral? 2 0 (← after? ':' cs)
  let cs := match cs with
    | '.' :: more => more.dropWhile Char.isDigit
    | _ => cs
  if cs.isEmpty then return ⟨hour, minute, second, 0⟩
  let zone ← zone? (cs.dropWhile isDateBlank)
  return ⟨hour, minute, second, zone⟩

/-- The time of day behind a day, after the letter for it or after blanks. -/
def timeBehind? : List Char → Option DayTime
  | c :: rest =>
    if c == 'T' || c == 't' then time? rest
    else if isDateBlank c then time? (rest.dropWhile isDateBlank)
    else none
  | [] => none

/-- The date that is all of a text. -/
def stamp? (cs : List Char) : Option Stamp := do
  let (year, cs) ← takeNumeral? 4 0 cs
  let (month, cs) ← takeNumeral? 1 1 (← after? '-' cs)
  let (day, cs) ← takeNumeral? 1 1 (← after? '-' cs)
  if cs.isEmpty then return ⟨year, month, day, none⟩
  return ⟨year, month, day, ← timeBehind? cs⟩

/-- Whether a text is a date at sight: without a time of day, month and day have two digits. -/
def isDate (cs : List Char) : Bool :=
  match stamp? cs with
  | none => false
  | some s => s.time.isSome || cs.length == 10

/-! ## Possible dates -/

def daysIn (year month : Nat) : Nat :=
  if month == 2 then
    if year % 4 == 0 && (year % 100 != 0 || year % 400 == 0) then 29 else 28
  else if [4, 6, 9, 11].contains month then 30
  else 31

/-- The first part of a time of day that is out of range. -/
def DayTime.part? (t : DayTime) : Option DatePart :=
  if 23 < t.hour then some .hour
  else if 59 < t.minute then some .minute
  else if 59 < t.second then some .second
  else none

/-- The first part of a date that is out of range. -/
def Stamp.part? (s : Stamp) : Option DatePart :=
  if s.year == 0 then some .year
  else if s.month == 0 || 12 < s.month then some .month
  else if s.day == 0 || daysIn s.year s.month < s.day then some .day
  else s.time.bind DayTime.part?

/-- What makes a date impossible; its time zone is looked at first. -/
def Stamp.fault? (s : Stamp) : Option ScalarFault :=
  match s.time with
  | some t => if 1440 ≤ t.zone.natAbs then some (.farZone t.zone) else s.part?.map .badDate
  | none => s.part?.map .badDate

end DiagnosticFeed.Yaml
