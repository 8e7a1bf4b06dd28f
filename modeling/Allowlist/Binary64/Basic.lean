import Allowlist.Number

/-! # Binary floating-point numbers of 64 bits

A double is its bits: a sign, eleven bits of exponent and 52 of fraction. Dropping the sign leaves
the magnitude, and magnitudes order the doubles of one sign as their values do, so comparison is
that of signed magnitudes. Every conversion goes through one rounding, `nearest`, which takes a
quotient of natural numbers to the closest double. -/

namespace Allowlist

/-- A double, given by its bits. -/
structure Binary64 where
  bits : UInt64
  deriving DecidableEq, Repr

namespace Binary64

def signBit : Nat := 0x8000000000000000

/-- The bit above the fraction, which is not stored. -/
def implicitBit : Nat := 0x10000000000000

def magnitude (x : Binary64) : Nat := x.bits.toNat % signBit

def isNegative (x : Binary64) : Bool := signBit ≤ x.bits.toNat

/-- The magnitude of the infinities; that of a finite double is smaller. -/
def infinity : Nat := 0x7FF * implicitBit

def isNaN (x : Binary64) : Bool := infinity < x.magnitude

def isFinite (x : Binary64) : Bool := x.magnitude < infinity

def ofMagnitude (negative : Bool) (magnitude : Nat) : Binary64 :=
  ⟨UInt64.ofNat (if negative then signBit + magnitude else magnitude)⟩

/-- Where a double that is a number stands among the others; both zeros stand at 0. -/
def position (x : Binary64) : Int :=
  if x.isNegative then -x.magnitude else x.magnitude

/-- The order of the values; a double that is no number is not comparable, not even to itself. -/
def compare? (x y : Binary64) : Option Ordering :=
  if x.isNaN || y.isNaN then none else some (compare x.position y.position)

/-- The coefficient and the power of two of a finite magnitude. -/
def parts (magnitude : Nat) : Nat × Int :=
  if magnitude < implicitBit then (magnitude, -1074)
  else (magnitude % implicitBit + implicitBit, magnitude / implicitBit - 1075)

/-- The value of a finite magnitude as a quotient. -/
def quotient (magnitude : Nat) : Nat × Nat :=
  let (m, q) := parts magnitude
  (m * twoPow q.toNat, twoPow (-q).toNat)

/-- A quotient to the nearest natural number, a half to the even one. -/
def roundHalfEven (num den : Nat) : Nat :=
  let q := num / den
  let r := num % den
  if den < 2 * r ∨ (den = 2 * r ∧ q % 2 = 1) then q + 1 else q

/-- The power of two of the last place of the double nearest to a positive quotient. -/
def lastPlace (num den : Nat) : Int :=
  let e : Int := num.log2 - den.log2 - 52
  let tooCoarse := num * twoPow (-e).toNat < implicitBit * (den * twoPow e.toNat)
  max (if tooCoarse then e - 1 else e) (-1074)

/-- The magnitude of the double nearest to a quotient, ties to even; infinity from half a unit
above the largest finite double on. -/
def nearest (num den : Nat) : Nat :=
  if num = 0 then 0
  else
    let e := lastPlace num den
    let m := roundHalfEven (num * twoPow (-e).toNat) (den * twoPow e.toNat)
    min infinity ((e + 1074).toNat * implicitBit + m)

/-- The double nearest to an integer. -/
def ofInt (i : Int) : Binary64 :=
  ofMagnitude (i < 0) (nearest i.natAbs 1)

/-- The magnitude of a product of finite magnitudes, rounded. -/
def mulMagnitude (a b : Nat) : Nat :=
  let (m, d) := quotient a
  let (n, e) := quotient b
  nearest (m * n) (d * e)

/-- The magnitude of a quotient of finite magnitudes, rounded; the divisor is not zero. -/
def divMagnitude (a b : Nat) : Nat :=
  let (m, d) := quotient a
  let (n, e) := quotient b
  nearest (m * e) (d * n)

end Binary64

end Allowlist
