/-! # The calendar

Days of the proleptic Gregorian calendar, counted from 1 January of the year 1. Years may be zero
or negative: the year before 1 is 0. -/

namespace Allowlist

/-- A day by year, month and day of the month. -/
structure Date where
  year : Int
  month : Nat
  day : Nat
  deriving DecidableEq, Repr

namespace Date

def isLeap (year : Int) : Bool :=
  year % 4 = 0 && (year % 100 ≠ 0 || year % 400 = 0)

/-- The lengths of the twelve months. -/
def monthLengths (leap : Bool) : List Nat :=
  [31, if leap then 29 else 28, 31, 30, 31, 30, 31, 31, 30, 31, 30, 31]

/-- The years that are written and read. -/
def minYear : Int := -262143

/-- The last year that is written and read. -/
def maxYear : Int := 262142

/-- Whether the calendar has this day, within the years it covers. -/
def isValid (d : Date) : Bool :=
  minYear ≤ d.year && d.year ≤ maxYear && 1 ≤ d.month && d.month ≤ 12 && 1 ≤ d.day &&
    d.day ≤ (monthLengths (isLeap d.year)).getD (d.month - 1) 0

def daysBeforeYear (year : Int) : Int :=
  let y := year - 1
  365 * y + y / 4 - y / 100 + y / 400

def toDays (d : Date) : Int :=
  let before := ((monthLengths (isLeap d.year)).take (d.month - 1)).foldl Nat.add 0
  daysBeforeYear d.year + before + d.day - 1

/-- The year that holds a day: an estimate from the mean length of a year, put right by one. -/
def yearOfDays (days : Int) : Int :=
  let y := 400 * days / 146097 + 1
  if days < daysBeforeYear y then y - 1
  else if daysBeforeYear (y + 1) ≤ days then y + 1
  else y

/-- The month and day of the month of a day of the year, both counted from 1, given the lengths of
the months from `month` on. -/
def monthDay (month : Nat) : List Nat → (dayOfYear : Nat) → Nat × Nat
  | [], n => (month, n + 1)
  | length :: rest, n => if n < length then (month, n + 1) else monthDay (month + 1) rest (n - length)

def ofDays (days : Int) : Date :=
  let year := yearOfDays days
  let (month, day) := monthDay 1 (monthLengths (isLeap year)) (days - daysBeforeYear year).toNat
  ⟨year, month, day⟩

end Date

end Allowlist
