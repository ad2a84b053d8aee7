import Wireframe.Text.Blank
import Wireframe.Text.Numeral

/-!
# Calendar days

Days of the proleptic Gregorian calendar, numbered through, and the written forms a day is read
from: a timestamp with an offset, which names the day it is then at Greenwich; a date with a time;
a plain date.
-/

namespace Wireframe.Calendar

open Text

/-! ### Day numbers -/

def isLeapYear (year : Int) : Bool :=
  year % 4 = 0 && (year % 100 ≠ 0 || year % 400 = 0)

/-- The days of the twelve months. -/
def monthLengths (year : Int) : List Nat :=
  [31, if isLeapYear year then 29 else 28, 31, 30, 31, 30, 31, 31, 30, 31, 30, 31]

/-- The number of days before the first of January. -/
def daysBeforeYear (year : Int) : Int :=
  let past := year - 1
  365 * past + past / 4 - past / 100 + past / 400

structure Date where
  year : Int
  month : Nat
  day : Nat
deriving DecidableEq, Repr

namespace Date

/-- The years a date can have. -/
def yearRange : Int × Int := (-262143, 262142)

/-- Whether the calendar has this date. -/
def isValid (date : Date) : Bool :=
  yearRange.1 ≤ date.year && date.year ≤ yearRange.2 && 1 ≤ date.month && date.month ≤ 12
    && 1 ≤ date.day && date.day ≤ (monthLengths date.year).getD (date.month - 1) 0

/-- The number of the day; the first of January of the year 1 is day 1. -/
def dayNumber (date : Date) : Int :=
  let daysBefore : Nat := ((monthLengths date.year).take (date.month - 1)).foldr (· + ·) 0
  daysBeforeYear date.year + daysBefore + date.day

end Date

/-- The day number of the first of January 1970. -/
def epochDay : Int := (Date.mk 1970 1 1).dayNumber

/-- The day a moment falls on, in seconds since the start of 1970 at Greenwich. -/
def dayOfSeconds (seconds : Int) : Int :=
  epochDay + seconds / 86400

/-! ### Written forms -/

/-- A number of `least` to `most` digits, and what follows. -/
def number? (least most : Nat) (cs : List Char) : Option (Nat × List Char) :=
  let digits := (cs.take most).takeWhile Char.isDigit
  if least ≤ digits.length then some (digitsValue 0 digits, cs.drop digits.length) else none

/-- What follows a character. -/
def expect? (c : Char) : List Char → Option (List Char)
  | d :: cs => if d = c then some cs else none
  | [] => none

/-- The date, if the calendar has it. -/
def date? (year : Int) (month day : Nat) : Option Date :=
  let date : Date := ⟨year, month, day⟩
  if date.isValid then some date else none

/-- The second of the day; a minute may have a sixtieth second, which counts as its last. -/
def secondOfDay? (hour minute second : Nat) : Option Nat :=
  if hour < 24 ∧ minute < 60 ∧ second ≤ 60 then
    some (hour * 3600 + minute * 60 + min second 59)
  else none

/-- Drops a fraction of a second: a point and at least one digit. -/
def dropFraction? : List Char → Option (List Char)
  | '.' :: cs =>
    match spanDigits cs with
    | ([], _) => none
    | (_, rest) => some rest
  | cs => some cs

/-- The offset from Greenwich in seconds, if nothing follows it. It stays below a day. -/
def offset? : List Char → Option Int
  | ['Z'] => some 0
  | ['z'] => some 0
  | sign :: cs => do
    let negative ←
      if sign = '+' then some false
      else if sign = '-' ∨ sign = '\u2212' then some true
      else none
    let (hours, cs) ← number? 2 2 cs
    let cs ← expect? ':' cs
    let (minutes, cs) ← number? 2 2 cs
    if cs = [] ∧ hours < 24 ∧ minutes < 60 then
      let seconds : Int := hours * 3600 + minutes * 60
      some (if negative then -seconds else seconds)
    else none
  | [] => none

/-- The day at Greenwich of a timestamp with an offset: `2024-02-18T18:30:00+01:00`. -/
def timestampDay? (cs : List Char) : Option Int := do
  let (year, cs) ← number? 4 4 cs
  let cs ← expect? '-' cs
  let (month, cs) ← number? 2 2 cs
  let cs ← expect? '-' cs
  let (day, cs) ← number? 2 2 cs
  let cs ← match cs with
    | c :: cs => if c = 'T' ∨ c = 't' ∨ c = ' ' then some cs else none
    | [] => none
  let (hour, cs) ← number? 2 2 cs
  let cs ← expect? ':' cs
  let (minute, cs) ← number? 2 2 cs
  let cs ← expect? ':' cs
  let (second, cs) ← number? 2 2 cs
  let cs ← dropFraction? cs
  let offset ← offset? cs
  let date ← date? year month day
  let time ← secondOfDay? hour minute second
  return date.dayNumber + ((time : Int) - offset) / 86400

/-- A number of a date without an offset: after blanks, of one to `most` digits. -/
def loose? (most : Nat) (cs : List Char) : Option (Nat × List Char) :=
  number? 1 most (cs.dropWhile isBlank)

/-- A year: up to four digits, or any number of them after a sign. -/
def year? (cs : List Char) : Option (Int × List Char) :=
  match cs.dropWhile isBlank with
  | '-' :: cs => (number? 1 cs.length cs).map fun (n, rest) => (-n, rest)
  | '+' :: cs => (number? 1 cs.length cs).map fun (n, rest) => (n, rest)
  | cs => (number? 1 4 cs).map fun (n, rest) => (n, rest)

/-- Year, month and day with hyphens between them, and what follows. -/
def looseDate? (cs : List Char) : Option (Date × List Char) := do
  let (year, cs) ← year? cs
  let cs ← expect? '-' cs
  let (month, cs) ← loose? 2 cs
  let cs ← expect? '-' cs
  let (day, cs) ← loose? 2 cs
  let date ← date? year month day
  return (date, cs)

/-- The day of a date with a time and no offset: `2024-02-18T18:30:00`. -/
def dateTimeDay? (cs : List Char) : Option Int := do
  let (date, cs) ← looseDate? cs
  let cs ← expect? 'T' cs
  let (hour, cs) ← loose? 2 cs
  let cs ← expect? ':' cs
  let (minute, cs) ← loose? 2 cs
  let cs ← expect? ':' cs
  let (second, cs) ← loose? 2 cs
  let _ ← secondOfDay? hour minute second
  if cs = [] then return date.dayNumber else none

/-- The day of a plain date: `2024-02-18`. -/
def dateDay? (cs : List Char) : Option Int := do
  let (date, cs) ← looseDate? cs
  if cs = [] then return date.dayNumber else none

/-- The number of the day a text names, in the first of the three forms that fits. -/
def day? (text : String) : Option Int :=
  let cs := trimChars text.toList
  (timestampDay? cs).or ((dateTimeDay? cs).or (dateDay? cs))

/-- The words for a day so many days from today. -/
def relativeDay (days : Int) : String :=
  if days = 0 then "today"
  else if days = -1 then "yesterday"
  else if days = 1 then "tomorrow"
  else if days < 0 then Nat.repr days.natAbs ++ " days ago"
  else "in " ++ Nat.repr days.natAbs ++ " days"

example : epochDay = 719163 := by decide
example : day? "2024-03-01T00:30:00+01:00" = (Date.mk 2024 2 29).dayNumber := by decide
example : day? "1900-02-29" = none := by decide

end Wireframe.Calendar
