import Allowlist.Text.Blank
import Allowlist.Text.Digits

/-! # Scanners

A scanner reads a value off the front of a text and hands on what is left, or refuses. Scanners
compose in `do` blocks; `whole` turns one into a reader of complete texts. -/

namespace Allowlist.Text

/-- Reads a value off the front of a text. -/
abbrev Scan := StateT (List Char) Option

namespace Scan

def whole {α : Type} (scan : Scan α) (s : List Char) : Option α :=
  match scan s with
  | some (a, []) => some a
  | _ => none

def refuse {α : Type} : Scan α := fun _ => none

def require (p : Prop) [Decidable p] : Scan Unit :=
  if p then pure () else refuse

def charIf (p : Char → Bool) : Scan Char
  | c :: rest => if p c then some (c, rest) else none
  | [] => none

def char (c : Char) : Scan Unit := do
  let _ ← charIf (· == c)

def skip (p : Char → Bool) : Scan Unit :=
  fun s => some ((), s.dropWhile p)

def blanks : Scan Unit := skip isBlank

def peek : Scan (Option Char) :=
  fun s => some (s.head?, s)

/-- A run of decimal digits, cut after `most`, refused below `least`. -/
def digits (least most : Nat) : Scan (List Nat) := fun s =>
  let run := (s.take most).takeWhile isDigit
  if run.length < least then none else some (run.filterMap digit?, s.drop run.length)

/-- The number that a run of `least` to `most` digits denotes. -/
def number (least most : Nat) : Scan Nat :=
  return ofDigits 10 (← digits least most)

def longNumber : Scan Nat := do
  let n ← get
  number 1 n.length

end Scan

end Allowlist.Text
