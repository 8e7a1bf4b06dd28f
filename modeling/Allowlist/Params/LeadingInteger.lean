import Allowlist.Number
import Allowlist.Text.Blank
import Allowlist.Text.Digits

/-! # Leading integers

The integer that a text starts with, however it goes on: blanks, at most one sign, then digits. The
integer is held within 64 bits: one that is too large stands at the end of the range. -/

namespace Allowlist

open Text

/-- A sign and the text after it; plus where there is none. -/
def cutSign : List Char → Int × List Char
  | '-' :: rest => (-1, rest)
  | '+' :: rest => (1, rest)
  | s => (1, s)

/-- Appends a digit to an integer of the given sign. -/
def appendDigit (sign i : Int) (d : Nat) : Int := saturate (saturate (i * 10) + sign * d)

/-- The integer that a text starts with, if there is a digit. -/
def leadingInteger? (s : String) : Option Int :=
  let (sign, rest) := cutSign (trimStart s.toList)
  match (takeDigits rest).1 with
  | [] => none
  | digits => some (digits.foldl (appendDigit sign) 0)

end Allowlist
