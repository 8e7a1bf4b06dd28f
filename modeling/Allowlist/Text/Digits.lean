/-! # Digits

Numerals in a base between two and sixteen: writing a number, with or without a fixed width, and
reading a run of digits. -/

namespace Allowlist.Text

def digit? (c : Char) : Option Nat :=
  if '0' ≤ c ∧ c ≤ '9' then some (c.toNat - 48) else none

/-- The value of an ASCII hexadecimal digit of either case. -/
def hexDigit? (c : Char) : Option Nat :=
  if '0' ≤ c ∧ c ≤ '9' then some (c.toNat - 48)
  else if 'a' ≤ c ∧ c ≤ 'f' then some (c.toNat - 87)
  else if 'A' ≤ c ∧ c ≤ 'F' then some (c.toNat - 55)
  else none

def isDigit (c : Char) : Bool := (digit? c).isSome

def isHexDigit (c : Char) : Bool := (hexDigit? c).isSome

/-- The digit below sixteen as a lower-case character. -/
def digitChar (d : Nat) : Char :=
  if d < 10 then Char.ofNat (48 + d) else Char.ofNat (87 + d)

/-- The number that a run of digit values denotes, most significant first. -/
def ofDigits (base : Nat) (digits : List Nat) : Nat :=
  digits.foldl (fun n d => n * base + d) 0

/-- The decimal text of a number, without leading zeros. -/
def decimal (n : Nat) : List Char :=
  if n < 10 then [digitChar n] else decimal (n / 10) ++ [digitChar (n % 10)]

/-- The last `width` digits of a number in the given base, most significant first. -/
def fixedWidth (base : Nat) : (width : Nat) → (n : Nat) → List Char
  | 0, _ => []
  | width + 1, n => fixedWidth base width (n / base) ++ [digitChar (n % base)]

/-- The decimal text of a number, filled with zeros on the left up to a width. -/
def zeroPadded (width n : Nat) : List Char :=
  let text := decimal n
  List.replicate (width - text.length) '0' ++ text

/-- The hexadecimal text of a number, without leading zeros. -/
def hexadecimal (n : Nat) : List Char :=
  if n < 16 then [digitChar n] else hexadecimal (n / 16) ++ [digitChar (n % 16)]

/-- The decimal text of an integer, with a sign if it is negative. -/
def signedDecimal (i : Int) : List Char :=
  if i < 0 then '-' :: decimal i.natAbs else decimal i.natAbs

/-- The decimal digits a text starts with, as values, and what follows them. -/
def takeDigits (s : List Char) : List Nat × List Char :=
  ((s.takeWhile isDigit).filterMap digit?, s.dropWhile isDigit)

/-- The number a text of at least one decimal digit and nothing else denotes. -/
def natural? (s : List Char) : Option Nat :=
  if s ≠ [] ∧ s.all isDigit then some (ofDigits 10 (s.filterMap digit?)) else none

end Allowlist.Text
