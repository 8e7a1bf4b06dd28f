import Allowlist.Number
import Allowlist.Params.Form
import Allowlist.Text.Blank
import Allowlist.Url.Punycode

/-! # Hosts

Which texts are hosts of a URL: an IPv6 address in brackets, a domain, or an IPv4 address. A domain
whose last label is a number is an address and has to be one in full. Schemes that know nothing of
domains take any text without delimiters. -/

namespace Allowlist.Url

open Text

/-- A piece of an IPv6 address: one to four hexadecimal digits. -/
def isHexPiece (s : List Char) : Bool :=
  1 ≤ s.length && s.length ≤ 4 && s.all isHexDigit

/-- A part of a dotted address within an IPv6 address: below 256, without leading zeros. -/
def isDottedPart (s : List Char) : Bool :=
  1 ≤ s.length && s.length ≤ 3 && s.all isDigit && (s.length = 1 || s.head? ≠ some '0') &&
    ofDigits 10 (s.filterMap digit?) < 256

def isDotted (s : List Char) : Bool :=
  let parts := splitAt '.' s
  parts.length = 4 && parts.all isDottedPart

/-- How many pieces a run of colon-separated pieces stands for; a dotted address at the end, where
one is allowed, stands for two. -/
def countPieces? (dotted : Bool) : List (List Char) → Option Nat
  | [] => some 0
  | [piece] =>
    if isHexPiece piece then some 1 else if dotted && isDotted piece then some 2 else none
  | piece :: rest => if isHexPiece piece then (countPieces? dotted rest).map (· + 1) else none

/-- The number of pieces in a text between or beside two colons in a row, which may be empty. -/
def countRun? (dotted : Bool) (s : List Char) : Option Nat :=
  if s = [] then some 0 else countPieces? dotted (splitAt ':' s)

/-- The texts before and after the first two colons in a row. -/
def cutDoubleColon? : List Char → Option (List Char × List Char)
  | ':' :: ':' :: rest => some ([], rest)
  | c :: rest => (cutDoubleColon? rest).map fun (before, after) => (c :: before, after)
  | [] => none

/-- An IPv6 address: eight pieces, or fewer with two colons in a row for the missing ones. -/
def isIpv6 (s : List Char) : Bool :=
  match cutDoubleColon? s with
  | none => countRun? true s = some 8
  | some (before, after) =>
    match countRun? false before, countRun? true after with
    | some m, some n => m + n ≤ 7
    | _, _ => false

/-- The number of a part of an IPv4 address: hexadecimal after `0x`, octal after `0`. -/
def ipv4Number? (s : List Char) : Option Nat :=
  let number (base : Nat) (s : List Char) : Option Nat :=
    let digits := s.filterMap hexDigit?
    if s.all isHexDigit && digits.all (· < base) then some (ofDigits base digits) else none
  match s with
  | [] => none
  | '0' :: 'x' :: rest => number 16 rest
  | '0' :: 'X' :: rest => number 16 rest
  | '0' :: d :: rest => number 8 (d :: rest)
  | s => number 10 s

/-- The labels of a domain, without the empty one after a final point. -/
def labels (domain : List Char) : List (List Char) :=
  let all := splitAt '.' domain
  if all.getLast? = some [] then all.dropLast else all

/-- Whether the last label is a number. -/
def endsInNumber (domain : List Char) : Bool :=
  match (labels domain).getLast? with
  | some last => last ≠ [] && last.all isDigit || (ipv4Number? last).isSome
  | none => false

/-- An IPv4 address of up to four numbers, the last of which fills the places left. -/
def isIpv4 (domain : List Char) : Bool :=
  match (labels domain).mapM ipv4Number? with
  | some numbers =>
    1 ≤ numbers.length && numbers.length ≤ 4 && numbers.dropLast.all (· < 256) &&
      numbers.getLastD 0 < twoPow (8 * (5 - numbers.length))
  | none => false

/-- Characters that no domain holds. -/
def isForbiddenInDomain (c : Char) : Bool :=
  c.toNat ≤ 0x20 || "#%/:<>?@[\\]^|".toList.contains c ||
    (0x7F ≤ c.toNat && c.toNat < 0xA0) || c = replacementChar || isBlank c

/-- Characters that a domain is read without. -/
def isIgnoredInDomain (c : Char) : Bool :=
  let n := c.toNat
  n == 0xAD || n == 0x34F || (0x180B ≤ n && n ≤ 0x180F) || n == 0x200B || n == 0x2060 ||
    n == 0x2064 || (0xFE00 ≤ n && n ≤ 0xFE0F) || n == 0xFEFF || (0xE0100 ≤ n && n ≤ 0xE01EF)

/-- Whether a label that is marked as standing for another does so. -/
def isLabel (label : List Char) : Bool :=
  let label := label.map Char.toLower
  if label.take 4 = "xn--".toList then
    (punycode? (label.drop 4)).any (!·.any isForbiddenInDomain)
  else true

/-- A host of a scheme that knows domains. -/
def isHost (s : List Char) : Bool :=
  if s.head? = some '[' then
    s.getLast? = some ']' && isIpv6 (s.drop 1).dropLast
  else
    let domain := (decodeUtf8 (Form.percentDecode (encodeUtf8 s))).filter (!isIgnoredInDomain ·)
    domain ≠ [] && !domain.any isForbiddenInDomain && (labels domain).all isLabel &&
      (!endsInNumber domain || isIpv4 domain)

/-- Characters that no other host holds. -/
def isForbiddenInHost (c : Char) : Bool :=
  "\x00\t\n\r #/:<>?@[\\]^|".toList.contains c

/-- A host of a scheme that knows no domains; it may be empty. -/
def isOpaqueHost (s : List Char) : Bool :=
  if s.head? = some '[' then
    s.getLast? = some ']' && isIpv6 (s.drop 1).dropLast
  else !s.any isForbiddenInHost

end Allowlist.Url
