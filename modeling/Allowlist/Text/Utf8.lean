/-! # UTF-8

Octets of a text and back. Decoding never fails: an octet sequence that is no UTF-8 is replaced,
one replacement character for each longest start of a character that breaks off, and one for each
octet that starts none. -/

namespace Allowlist.Text

/-- The character that stands for octets which cannot be decoded. -/
def replacementChar : Char := '\ufffd'

def encodeChar (c : Char) : List UInt8 :=
  let n := c.toNat
  if n < 0x80 then [n.toUInt8]
  else if n < 0x800 then [(0xC0 + n / 0x40).toUInt8, (0x80 + n % 0x40).toUInt8]
  else if n < 0x10000 then
    [(0xE0 + n / 0x1000).toUInt8, (0x80 + n / 0x40 % 0x40).toUInt8, (0x80 + n % 0x40).toUInt8]
  else
    [(0xF0 + n / 0x40000).toUInt8, (0x80 + n / 0x1000 % 0x40).toUInt8,
      (0x80 + n / 0x40 % 0x40).toUInt8, (0x80 + n % 0x40).toUInt8]

def encodeUtf8 (s : List Char) : List UInt8 :=
  s.flatMap encodeChar

/-- What the first octet of a character says about the rest: how many octets follow, the range of
the next one, and the bits it brings itself. -/
structure Lead where
  following : Nat
  low : Nat
  high : Nat
  bits : Nat
  deriving Repr, DecidableEq

/-- Reads a first octet above the ASCII range. -/
def lead? (b : Nat) : Option Lead :=
  if 0xC2 ≤ b ∧ b ≤ 0xDF then some ⟨1, 0x80, 0xBF, b - 0xC0⟩
  else if b = 0xE0 then some ⟨2, 0xA0, 0xBF, 0⟩
  else if b = 0xED then some ⟨2, 0x80, 0x9F, 0xD⟩
  else if 0xE1 ≤ b ∧ b ≤ 0xEF then some ⟨2, 0x80, 0xBF, b - 0xE0⟩
  else if b = 0xF0 then some ⟨3, 0x90, 0xBF, 0⟩
  else if 0xF1 ≤ b ∧ b ≤ 0xF3 then some ⟨3, 0x80, 0xBF, b - 0xF0⟩
  else if b = 0xF4 then some ⟨3, 0x80, 0x8F, 4⟩
  else none

/-- A character that is still owed octets: how many, the range of the next, the bits so far. -/
abbrev Pending := Lead

/-- Decodes octets, given a character that has begun or none. -/
def decodeFrom : Option Pending → List UInt8 → List Char
  | none, [] => []
  | some _, [] => [replacementChar]
  | pending, octet :: rest =>
    let b := octet.toNat
    match pending with
    | some p =>
      if p.low ≤ b ∧ b ≤ p.high then
        let bits := p.bits * 0x40 + (b - 0x80)
        if p.following ≤ 1 then Char.ofNat bits :: decodeFrom none rest
        else decodeFrom (some ⟨p.following - 1, 0x80, 0xBF, bits⟩) rest
      else replacementChar ::
        (if b < 0x80 then Char.ofNat b :: decodeFrom none rest
        else match lead? b with
          | some l => decodeFrom (some l) rest
          | none => replacementChar :: decodeFrom none rest)
    | none =>
      if b < 0x80 then Char.ofNat b :: decodeFrom none rest
      else match lead? b with
        | some l => decodeFrom (some l) rest
        | none => replacementChar :: decodeFrom none rest

/-- The text of octets, with replacement characters for what is no UTF-8. -/
def decodeUtf8 (octets : List UInt8) : List Char :=
  decodeFrom none octets

end Allowlist.Text
