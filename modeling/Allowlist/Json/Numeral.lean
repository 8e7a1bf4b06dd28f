import Allowlist.Json.Basic
import Allowlist.Number

/-! # JSON numerals

A numeral without fraction and exponent is an integer if it fits into 64 bits, and every other one
a double. A double is read in two roundings: the digits, cut off where they no longer fit into 64
bits, are taken to a double, and that is scaled by a power of ten. So the double is not always the
closest one to the numeral. A numeral above the largest double is refused. -/

namespace Allowlist.Json

open Text Binary64

/-- A numeral by its parts; the runs of digits are those written. -/
structure Numeral where
  negative : Bool
  whole : List Nat
  fraction : List Nat
  exponent : Option Int
  deriving DecidableEq, Repr

/-- Digits as far as they fit into 64 bits, and the power of ten they are to be scaled by. -/
structure Significand where
  digits : Nat
  exponent : Int
  deriving DecidableEq, Repr

namespace Numeral

/-- Whether another digit fits. -/
def fits (n d : Nat) : Bool := n * 10 + d < wordCount

/-- Takes in the digits before the point; each that is cut off counts as a power of ten. -/
def takeWhole (n : Nat) : List Nat → Significand
  | [] => ⟨n, 0⟩
  | d :: rest => if fits n d then takeWhole (n * 10 + d) rest else ⟨n, rest.length + 1⟩

/-- Takes in the digits after the point, up to the first that does not fit. -/
def takeFraction (s : Significand) : List Nat → Significand
  | [] => s
  | d :: rest =>
    if fits s.digits d then takeFraction ⟨s.digits * 10 + d, s.exponent - 1⟩ rest else s

def significand (n : Numeral) : Significand :=
  let s := takeFraction (takeWhole 0 n.whole) n.fraction
  ⟨s.digits, s.exponent + n.exponent.getD 0⟩

/-- The magnitude of a power of ten up to the 308th. -/
def powerOfTen (k : Nat) : Nat := nearest (tenPow k) 1

/-- Divides by powers of ten of at most 308; two whole steps leave nothing of 64 bits of digits. -/
def scaleDown (magnitude : Nat) : (steps : Nat) → (places : Nat) → Nat
  | 0, _ => 0
  | steps + 1, places =>
    if places ≤ 308 then divMagnitude magnitude (powerOfTen places)
    else scaleDown (divMagnitude magnitude (powerOfTen 308)) steps (places - 308)

def scale? (s : Significand) : Option Nat :=
  let m := nearest s.digits 1
  if m = 0 then some 0
  else if s.exponent < 0 then some (scaleDown m 3 s.exponent.natAbs)
  else if 308 < s.exponent then none
  else
    let product := mulMagnitude m (powerOfTen s.exponent.toNat)
    if product < infinity then some product else none

/-- The double of a numeral, if it is finite. -/
def float? (n : Numeral) : Option Number :=
  (scale? n.significand).map fun m => .float (ofMagnitude n.negative m)

/-- The number of a numeral; minus zero is a double. -/
def toNumber? (n : Numeral) : Option Number :=
  if n.fraction = [] ∧ n.exponent = none then
    let i := ofDigits 10 n.whole
    if n.negative then
      if 0 < i ∧ isInt64 (-i) then some (.integer (-i)) else n.float?
    else if i < wordCount then some (.integer i) else n.float?
  else n.float?

end Numeral

end Allowlist.Json
