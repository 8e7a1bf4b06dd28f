/-! # Powers and words

Powers of the two bases that numbers are written in, and the range of the integers that fit into 64
bits. -/

namespace Allowlist

def twoPow (n : Nat) : Nat := Nat.pow 2 n

def tenPow (n : Nat) : Nat := Nat.pow 10 n

/-- The number of words of 64 bits. -/
def wordCount : Nat := 0x10000000000000000

def minInt64 : Int := -0x8000000000000000

def maxInt64 : Int := 0x7FFFFFFFFFFFFFFF

def isInt64 (i : Int) : Bool := minInt64 ≤ i && i ≤ maxInt64

/-- The integer of 64 bits closest to an integer. -/
def saturate (i : Int) : Int := max minInt64 (min maxInt64 i)

end Allowlist
