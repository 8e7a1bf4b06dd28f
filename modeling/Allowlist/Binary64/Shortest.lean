import Allowlist.Binary64.Basic

/-! # The shortest decimal of a double

The decimal of fewest digits among those that read back as the double, and of several of that
length the one closest to its value. The search tries the grids of 1, 2, … 17 digits in turn; on
each, only the two neighbours of the value can be closest, so only they are tested. -/

namespace Allowlist.Binary64

/-- Which of two neighbours at the same distance is taken. -/
inductive Tie
  | toEven
  | upward
  deriving DecidableEq, Repr

/-- The decimal number `coefficient · 10 ^ exponent`. -/
structure Decimal where
  coefficient : Nat
  exponent : Int
  deriving DecidableEq, Repr

/-- The reals that round to a double, on a grid of quarter units: the value and the two ends are
`value`, `low` and `high` times `num / den`, and the ends belong to them if `closed`. -/
structure Interval where
  low : Nat
  value : Nat
  high : Nat
  num : Nat
  den : Nat
  closed : Bool
  deriving Repr

/-- The interval of a finite magnitude above zero. Below a power of two doubles lie twice as
close as above it, so there the lower end is nearer. -/
def interval (magnitude : Nat) : Interval :=
  let (m, q) := parts magnitude
  let narrow := m = implicitBit ∧ -1074 < q
  { low := 4 * m - (if narrow then 1 else 2), value := 4 * m, high := 4 * m + 2,
    num := twoPow (q - 2).toNat, den := twoPow (2 - q).toNat, closed := m % 2 = 0 }

namespace Interval

/-- Whether `c · 10 ^ e` lies in the interval. -/
def holds (i : Interval) (c : Nat) (e : Int) : Bool :=
  let x := c * tenPow e.toNat * i.den
  let low := i.low * i.num * tenPow (-e).toNat
  let high := i.high * i.num * tenPow (-e).toNat
  if i.closed then low ≤ x ∧ x ≤ high else low < x ∧ x < high

/-- Whether the value is at least `10 ^ k`. -/
def reaches (i : Interval) (k : Int) : Bool :=
  tenPow k.toNat * i.den ≤ i.value * i.num * tenPow (-k).toNat

/-- The exponent of the leading decimal digit of the value: an estimate from its binary logarithm,
put right by one step either way. -/
def leading (i : Interval) : Int :=
  let log : Int := (i.value * i.num).log2 - i.den.log2
  let k := (log * 30103).fdiv 100000
  if !i.reaches k then k - 1 else if i.reaches (k + 1) then k + 1 else k

/-- The closest decimal of the interval with last digit at `10 ^ e`, if the interval holds any. -/
def closest? (i : Interval) (tie : Tie) (e : Int) : Option Nat :=
  let x := i.value * i.num * tenPow (-e).toNat
  let unit := tenPow e.toNat * i.den
  let c := x / unit
  let distance := compare (2 * x) ((2 * c + 1) * unit)
  let up := match distance with
    | .lt => false
    | .gt => true
    | .eq => match tie with
      | .toEven => c % 2 = 1
      | .upward => true
  match 0 < c && i.holds c e, i.holds (c + 1) e with
  | true, true => some (if up then c + 1 else c)
  | true, false => some c
  | false, true => some (c + 1)
  | false, false => none

/-- The first grid with a decimal of the interval, from a last digit at `10 ^ e` down, over at most
`grids` grids. -/
def search (i : Interval) (tie : Tie) : (grids : Nat) → (e : Int) → Decimal
  | 0, e => ⟨i.value * i.num * tenPow (-e).toNat / (tenPow e.toNat * i.den), e⟩
  | grids + 1, e =>
    match i.closest? tie e with
    | some c => ⟨c, e⟩
    | none => i.search tie grids (e - 1)

end Interval

/-- The shortest decimal of a finite magnitude; 17 digits always suffice. -/
def shortest (tie : Tie) (magnitude : Nat) : Decimal :=
  if magnitude = 0 then ⟨0, 0⟩
  else
    let i := interval magnitude
    i.search tie 17 i.leading

end Allowlist.Binary64
