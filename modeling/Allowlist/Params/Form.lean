import Allowlist.Text.Digits
import Allowlist.Text.Split
import Allowlist.Text.Utf8

/-! # Form encoding

Pairs of texts as one text: `name=value` joined by `&`, where an octet can be written as a percent
sign and two hexadecimal digits and a space as `+`. Decoding never fails: a percent sign without
digits stands for itself, and octets that are no UTF-8 are replaced. -/

namespace Allowlist.Form

open Text

def octet (c : Char) : UInt8 := c.toNat.toUInt8

def hexValue? (b : UInt8) : Option Nat := hexDigit? (Char.ofNat b.toNat)

/-- Replaces each escape by the octet it stands for. -/
def percentDecode : List UInt8 → List UInt8
  | [] => []
  | b :: rest =>
    if b = octet '%' then
      match rest with
      | high :: low :: after =>
        match hexValue? high, hexValue? low with
        | some high, some low => (16 * high + low).toUInt8 :: percentDecode after
        | _, _ => b :: percentDecode (high :: low :: after)
      | [low] => [b, low]
      | [] => [b]
    else b :: percentDecode rest

/-- A space for a plus sign. -/
def plusToSpace (b : UInt8) : UInt8 := if b = octet '+' then octet ' ' else b

def decodePart (octets : List UInt8) : String :=
  String.ofList (decodeUtf8 (percentDecode (octets.map plusToSpace)))

/-- The name and value of a piece: the value starts after the first equals sign. -/
def decodePair (octets : List UInt8) : String × String :=
  let (name, value) := cutAt (octet '=') octets
  (decodePart name, decodePart (value.getD []))

/-- The pairs of a text; empty pieces are passed over. -/
def decode (s : List Char) : List (String × String) :=
  ((splitAt (octet '&') (encodeUtf8 s)).filter (· ≠ [])).map decodePair

def escapeOctet (b : UInt8) : List Char := '%' :: fixedWidth 16 2 b.toNat

def encodePart (s : String) : List Char := (encodeUtf8 s.toList).flatMap escapeOctet

def encodePair (pair : String × String) : List Char :=
  encodePart pair.1 ++ ['='] ++ encodePart pair.2

def encode (pairs : List (String × String)) : List Char :=
  ['&'].intercalate (pairs.map encodePair)

end Allowlist.Form
