import Allowlist.Text.Scan

/-! # UUIDs

A UUID is a number of 128 bits, most significant octet first, written as 32 hexadecimal digits in
groups of 8, 4, 4, 4 and 12. Digits of either case are read, and besides the hyphenated form the
digits alone, the hyphenated form in braces, and the hyphenated form after `urn:uuid:`. -/

namespace Allowlist

open Text

/-- A number of 128 bits that names something. -/
structure Uuid where
  value : BitVec 128
  deriving DecidableEq, Repr

namespace Uuid

/-- The order of the numbers, which is that of the octets. -/
def compare (a b : Uuid) : Ordering :=
  Ord.compare a.value.toNat b.value.toNat

def groups : List Nat := [8, 4, 4, 4, 12]

/-- Joins the groups of a run of characters with hyphens. -/
def hyphenate : List Nat → List Char → List Char
  | [], _ => []
  | [n], s => s.take n
  | n :: rest, s => s.take n ++ ['-'] ++ hyphenate rest (s.drop n)

def text (u : Uuid) : List Char :=
  hyphenate groups (fixedWidth 16 32 u.value.toNat)

/-- Takes hyphens out from between groups of the given lengths. -/
def unhyphenate? : List Nat → List Char → Option (List Char)
  | [], s => if s = [] then some [] else none
  | [n], s => if s.length = n then some s else none
  | n :: rest, s =>
    match s.drop n with
    | '-' :: after => (unhyphenate? rest after).map (s.take n ++ ·)
    | _ => none

def ofDigits? (s : List Char) : Option Uuid :=
  if s.length = 32 ∧ s.all isHexDigit then
    some ⟨BitVec.ofNat 128 (ofDigits 16 (s.filterMap hexDigit?))⟩
  else none

def parse? (s : List Char) : Option Uuid :=
  if s.length = 32 then ofDigits? s
  else if s.length = 36 then unhyphenate? groups s >>= ofDigits?
  else if s.length = 38 ∧ s.head? = some '\x7b' ∧ s.getLast? = some '\x7d' then
    unhyphenate? groups (s.drop 1).dropLast >>= ofDigits?
  else if s.length = 45 ∧ (s.take 9).map Char.toLower = "urn:uuid:".toList then
    unhyphenate? groups (s.drop 9) >>= ofDigits?
  else none

end Uuid

end Allowlist
