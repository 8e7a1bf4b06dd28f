import Allowlist.Binary64.Shortest
import Allowlist.Text.Digits

/-! # Doubles in decimal notation

A notation decides how the digits of a double are laid out: where the positional form gives way to
the one with an exponent, whether a whole number shows a fraction, and what stands for a double
that is no real number. -/

namespace Allowlist.Binary64

open Text

/-- The decisions of a format on the text of a double. -/
structure Layout where
  /-- Which of two equally close decimals is shown. -/
  tie : Tie
  /-- Whether a leading digit at this power of ten is written without an exponent. -/
  positional : Int → Bool
  /-- What follows a whole number in positional form. -/
  wholeEnd : List Char
  /-- The text of a double that is no number. -/
  notANumber : List Char
  /-- The text of an infinity. -/
  infinite : (negative : Bool) → List Char

/-- The digits with a point, `whole` of them before it. -/
def positionalText (layout : Layout) (digits : List Char) (whole : Int) : List Char :=
  if whole ≤ 0 then ['0', '.'] ++ List.replicate (-whole).toNat '0' ++ digits
  else if digits.length ≤ whole.toNat then
    digits ++ List.replicate (whole.toNat - digits.length) '0' ++ layout.wholeEnd
  else digits.take whole.toNat ++ ['.'] ++ digits.drop whole.toNat

/-- The digits with a point after the first and an exponent of ten. -/
def exponentText (digits : List Char) (exponent : Int) : List Char :=
  let fraction := match digits.drop 1 with
    | [] => []
    | rest => '.' :: rest
  digits.take 1 ++ fraction ++ ['e', if exponent < 0 then '-' else '+'] ++ decimal exponent.natAbs

/-- The digits of a number without the zeros at its end. -/
def significantDigits (n : Nat) : List Char :=
  ((decimal n).reverse.dropWhile (· = '0')).reverse

def text (layout : Layout) (x : Binary64) : List Char :=
  if x.isNaN then layout.notANumber
  else if !x.isFinite then layout.infinite x.isNegative
  else
    let sign := if x.isNegative then ['-'] else []
    if x.magnitude = 0 then sign ++ ['0'] ++ layout.wholeEnd
    else
      let d := shortest layout.tie x.magnitude
      let leading := d.exponent + ((decimal d.coefficient).length : Int) - 1
      let digits := significantDigits d.coefficient
      sign ++
        (if layout.positional leading then positionalText layout digits (leading + 1)
        else exponentText digits leading)

end Allowlist.Binary64
