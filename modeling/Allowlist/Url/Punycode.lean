import Allowlist.Text.Digits

/-! # Punycode

Labels of a domain in ASCII that stand for labels with other characters. What comes after the last
hyphen says, as a run of numbers, which characters are put in where; a label that puts in none, or
whose numbers run out, stands for nothing. -/

namespace Allowlist.Url

open Text

/-- The value of a digit in base 36. -/
def digit36? (c : Char) : Option Nat :=
  if 'a' ≤ c ∧ c ≤ 'z' then some (c.toNat - 97) else (digit? c).map (· + 26)

/-- How far the least significant digits of a number can go. -/
def threshold (bias place : Nat) : Nat := min 26 (max 1 (36 * (place + 1) - bias))

/-- The bias for small numbers, and the digits that the division by 35 takes away. -/
def settleBias : (steps : Nat) → (delta places : Nat) → Nat
  | 0, delta, places => 36 * places + 36 * delta / (delta + 38)
  | steps + 1, delta, places =>
    if 455 < delta then settleBias steps (delta / 35) (places + 1)
    else 36 * places + 36 * delta / (delta + 38)

/-- The bias after a number that put in the last of `count` characters. -/
def adaptBias (delta count : Nat) (first : Bool) : Nat :=
  let delta := if first then delta / 700 else delta / 2
  settleBias 64 (delta + delta / count) 0

/-- A label in the course of decoding: its characters so far, the last one put in and the place of
the next, and the number that is being read, with the weight and place of its next digit. -/
structure Decoding where
  chars : List Nat
  code : Nat := 128
  index : Nat := 0
  bias : Nat := 72
  number : Nat := 0
  weight : Nat := 1
  place : Nat := 0

namespace Decoding

/-- Puts in the character of a number that has been read. -/
def finish? (d : Decoding) : Option Decoding :=
  let count := d.chars.length + 1
  let total := d.index + d.number
  let code := d.code + total / count
  let index := total % count
  if code.isValidChar then
    some { chars := d.chars.take index ++ code :: d.chars.drop index, code := code,
           index := index + 1, bias := adaptBias d.number count (d.chars.all (· < 128)) }
  else none

def step? (d : Decoding) (c : Char) : Option Decoding := do
  let digit ← digit36? c
  let d' := { d with number := d.number + digit * d.weight }
  let t := threshold d.bias d.place
  if digit < t then d'.finish?
  else if d'.number < 0x100000000 then
    some { d' with weight := d.weight * (36 - t), place := d.place + 1 }
  else none

end Decoding

/-- The characters that a label stands for, given what follows its mark. -/
def punycode? (s : List Char) : Option (List Char) := do
  let digits := (s.reverse.takeWhile (· ≠ '-')).reverse
  let basic := (s.reverse.dropWhile (· ≠ '-')).drop 1 |>.reverse
  let d ← digits.foldlM Decoding.step? { chars := basic.map Char.toNat }
  if digits ≠ [] ∧ d.place = 0 then some (d.chars.map Char.ofNat) else none

end Allowlist.Url
