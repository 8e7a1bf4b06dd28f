import Allowlist.Binary64.Basic
import Allowlist.Text.Digits

/-! # Reading decimals as doubles

A decimal numeral has a sign, digits around an optional point, and an optional exponent; digits may
be missing on one side of the point but not on both. It denotes the double nearest to its value. -/

namespace Allowlist.Binary64

open Text

/-- The magnitude nearest to `coefficient · 10 ^ exponent`. Far outside the range of doubles the
answer does not hang on the digits, and is given at once. -/
def ofDecimal (coefficient : Nat) (exponent : Int) : Nat :=
  if coefficient = 0 then 0
  else
    let size : Int := (decimal coefficient).length + exponent
    if 310 < size then infinity
    else if size < -330 then 0
    else nearest (coefficient * tenPow exponent.toNat) (tenPow (-exponent).toNat)

def takeSign : List Char → Bool × List Char
  | '-' :: rest => (true, rest)
  | '+' :: rest => (false, rest)
  | s => (false, s)

/-- The exponent at the end of a numeral: none stands for 0, and one without digits is refused. -/
def readExponent? : List Char → Option Int
  | [] => some 0
  | c :: rest =>
    if c = 'e' ∨ c = 'E' then
      let (negative, digits) := takeSign rest
      (natural? digits).map fun n => if negative then -(n : Int) else n
    else none

/-- The double that a whole text denotes, infinite if it is too large for any other. -/
def read? (s : List Char) : Option Binary64 :=
  let (negative, s) := takeSign s
  let (whole, s) := takeDigits s
  let (fraction, s) := match s with
    | '.' :: rest => takeDigits rest
    | _ => ([], s)
  if whole = [] ∧ fraction = [] then none
  else (readExponent? s).map fun e =>
    ofMagnitude negative (ofDecimal (ofDigits 10 (whole ++ fraction)) (e - fraction.length))

end Allowlist.Binary64
