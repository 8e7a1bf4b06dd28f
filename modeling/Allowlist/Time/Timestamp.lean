import Allowlist.Text.Digits
import Allowlist.Time.Calendar

/-! # Timestamps

An instant of universal time: seconds since 1970 and the part of a second after them, which is a
second or more in a leap second. The readers know leap seconds only as the 61st of a minute, that
is, on its last second; a timestamp that is put together otherwise may have one on any second. The
text of a timestamp is that of RFC 3339, with no fraction or one of 3, 6 or 9 digits, and a sign
before a year that does not have four digits; a leap second is shown as the second after it. -/

namespace Allowlist

open Text

/-- An instant of universal time. -/
structure Timestamp where
  seconds : Int
  nanos : Nat
  nanos_lt : nanos < 2000000000
  deriving DecidableEq, Repr

namespace Timestamp

/-- The day on which the seconds start. -/
def epochDay : Int := Date.daysBeforeYear 1970

/-- The first second of the years that are covered. -/
def minSeconds : Int := (Date.daysBeforeYear Date.minYear - epochDay) * 86400

/-- The second after the years that are covered. -/
def endSeconds : Int := (Date.daysBeforeYear (Date.maxYear + 1) - epochDay) * 86400

def compare (a b : Timestamp) : Ordering :=
  (Ord.compare a.seconds b.seconds).then (Ord.compare a.nanos b.nanos)

/-- A leap second is the last one of a minute. -/
def LeapsAtMinuteEnd (t : Timestamp) : Prop := 1000000000 ≤ t.nanos → t.seconds % 60 = 59

instance (t : Timestamp) : Decidable t.LeapsAtMinuteEnd := inferInstanceAs (Decidable (_ → _))

/-- The instant of a second in the years that are covered, and of a part of a second, which is a
second or more only on the last second of a minute. -/
def of? (seconds : Int) (nanos : Nat) : Option Timestamp :=
  if h : nanos < 2000000000 then
    let t : Timestamp := ⟨seconds, nanos, h⟩
    if t.LeapsAtMinuteEnd ∧ minSeconds ≤ seconds ∧ seconds < endSeconds then some t else none
  else none

/-- The instant of a date, a time of day and an offset from universal time in minutes; second 60
is a leap second. -/
def ofCivil? (date : Date) (hour minute second nanos : Nat) (offset : Int) : Option Timestamp :=
  if date.isValid ∧ hour < 24 ∧ minute < 60 ∧ second ≤ 60 ∧ nanos < 1000000000 then
    let leap := second = 60
    let time : Int := hour * 3600 + minute * 60 + (if leap then 59 else second)
    of? ((date.toDays - epochDay) * 86400 + time - offset * 60)
      (if leap then nanos + 1000000000 else nanos)
  else none

def date (t : Timestamp) : Date :=
  Date.ofDays (t.seconds / 86400 + epochDay)

/-- A year: four digits, or a sign and at least four. -/
def yearText (year : Int) : List Char :=
  if 0 ≤ year ∧ year ≤ 9999 then zeroPadded 4 year.toNat
  else (if year < 0 then '-' else '+') :: zeroPadded 4 year.natAbs

/-- The part of a second: nothing if it is zero, else 3, 6 or 9 digits after a point. -/
def fractionText (nanos : Nat) : List Char :=
  if nanos = 0 then []
  else if nanos % 1000000 = 0 then '.' :: zeroPadded 3 (nanos / 1000000)
  else if nanos % 1000 = 0 then '.' :: zeroPadded 6 (nanos / 1000)
  else '.' :: zeroPadded 9 nanos

/-- The text of the instant, with the given mark for universal time at the end. -/
def text (zone : List Char) (t : Timestamp) : List Char :=
  let d := t.date
  let time := (t.seconds % 86400).toNat
  let leap := 1000000000 ≤ t.nanos
  let second := time % 60 + (if leap then 1 else 0)
  let nanos := if leap then t.nanos - 1000000000 else t.nanos
  yearText d.year ++ ['-'] ++ zeroPadded 2 d.month ++ ['-'] ++ zeroPadded 2 d.day ++ ['T'] ++
    zeroPadded 2 (time / 3600) ++ [':'] ++ zeroPadded 2 (time / 60 % 60) ++ [':'] ++
    zeroPadded 2 second ++ fractionText nanos ++ zone

end Timestamp

end Allowlist
