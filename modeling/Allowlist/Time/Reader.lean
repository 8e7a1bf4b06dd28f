import Allowlist.Number
import Allowlist.Text.Scan
import Allowlist.Time.Timestamp

/-! # Reading timestamps

Three forms: `strict` is RFC 3339 to the letter, `relaxed` allows blanks between the parts, short
numbers and signed years, and `day` is a date alone, which stands for its first instant. -/

namespace Allowlist.Timestamp

open Text Text.Scan

/-- The part of a second, to nine digits; further digits are passed over. -/
def scanNanos : Scan Nat := do
  let ds ← digits 1 9
  skip isDigit
  return ofDigits 10 ds * tenPow (9 - ds.length)

/-- The part of a second after a point, or none. -/
def scanFraction : Scan Nat := do
  if (← peek) = some '.' then
    char '.'
    scanNanos
  else return 0

/-- The sign of an offset: plus, a hyphen, or the minus sign. -/
def scanOffsetSign : Scan Int := do
  let c ← charIf fun c => c = '+' || c = '-' || c = '\u2212'
  return if c = '+' then 1 else -1

/-- An offset from universal time in minutes, with the given mark between hours and minutes. -/
def scanOffset (between : Scan Unit) : Scan Int := do
  if (← peek) = some 'Z' ∨ (← peek) = some 'z' then
    let _ ← charIf fun _ => true
    return 0
  else
    let sign ← scanOffsetSign
    let hours ← number 2 2
    between
    let minutes ← number 2 2
    require (hours < 24 ∧ minutes < 60)
    return sign * (hours * 60 + minutes : Nat)

/-- The instant of the parts, if there is one. -/
def assemble (date : Date) (hour minute second nanos : Nat) (offset : Int) : Scan Timestamp :=
  fun s => (ofCivil? date hour minute second nanos offset).map (·, s)

def scanStrict : Scan Timestamp := do
  let year ← number 4 4
  char '-'
  let month ← number 2 2
  char '-'
  let day ← number 2 2
  let _ ← charIf fun c => c = 'T' || c = 't' || c = ' '
  let hour ← number 2 2
  char ':'
  let minute ← number 2 2
  char ':'
  let second ← number 2 2
  let nanos ← scanFraction
  let offset ← scanOffset (char ':')
  assemble ⟨year, month, day⟩ hour minute second nanos offset

/-- A year: up to four digits, or any number of them after a sign. -/
def scanYear : Scan Int := do
  blanks
  match ← peek with
  | some '-' => do
    char '-'
    return -(← longNumber : Nat)
  | some '+' => do
    char '+'
    return (← longNumber : Nat)
  | _ => return (← number 1 4 : Nat)

/-- A number of one or two digits after blanks. -/
def scanShort : Scan Nat := do
  blanks
  number 1 2

/-- A date, with the given space before each hyphen. -/
def scanDate (space : Scan Unit) : Scan Date := do
  let year ← scanYear
  space
  char '-'
  let month ← scanShort
  space
  char '-'
  let day ← scanShort
  return ⟨year, month, day⟩

/-- The name of universal time, in any case, or an offset with colons and blanks in its middle. -/
def scanZone : Scan Int := do
  let s ← get
  if (s.take 3).map Char.toLower = ['u', 't', 'c'] then
    set (s.drop 3)
    return 0
  else scanOffset (skip fun c => c = ':' || isBlank c)

def scanRelaxed : Scan Timestamp := do
  let date ← scanDate blanks
  let _ ← charIf fun c => c = 'T' || c = 't' || c = ' '
  let hour ← scanShort
  blanks
  char ':'
  let minute ← scanShort
  blanks
  char ':'
  let second ← scanShort
  let nanos ← scanFraction
  blanks
  let offset ← scanZone
  blanks
  assemble date hour minute second nanos offset

def strict? (s : List Char) : Option Timestamp :=
  scanStrict.whole s

def relaxed? (s : List Char) : Option Timestamp :=
  scanRelaxed.whole s

def day? (s : List Char) : Option Timestamp := do
  let date ← (scanDate (pure ())).whole s
  ofCivil? date 0 0 0 0 0

end Allowlist.Timestamp
