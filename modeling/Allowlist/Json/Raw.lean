import Allowlist.Binary64.Reader
import Allowlist.Json.Numeral

/-! # Reading JSON

A text is first read into a tree of what is written, `Raw`: numerals are not yet numbers, a field
may occur twice, and a string may hold escapes that make no character. Whether that matters depends
on who reads the tree: a part that nobody looks at only has to be well formed. -/

namespace Allowlist.Json

open Text

/-- A value as written. A string that has no content holds half of a surrogate pair. -/
inductive Raw
  | null
  | bool (b : Bool)
  | number (n : Numeral)
  | string (s : Option String)
  | array (items : List Raw)
  | object (fields : List (Option String × Raw))
  deriving Repr

namespace Raw

/-- The blanks that JSON allows between parts. -/
def isSpace (c : Char) : Bool :=
  c = ' ' || c = '\n' || c = '\t' || c = '\r'

def skipSpace (s : List Char) : List Char := s.dropWhile isSpace

/-- The character of a one-letter escape. -/
def simpleEscape? (c : Char) : Option Char :=
  if c = '"' then some '"'
  else if c = '\\' then some '\\'
  else if c = '/' then some '/'
  else if c = 'b' then some '\x08'
  else if c = 'f' then some '\x0c'
  else if c = 'n' then some '\n'
  else if c = 'r' then some '\r'
  else if c = 't' then some '\t'
  else none

/-- The number of four hexadecimal digits. -/
def codeUnit? (a b c d : Char) : Option Nat := do
  let a ← hexDigit? a
  let b ← hexDigit? b
  let c ← hexDigit? c
  let d ← hexDigit? d
  return ofDigits 16 [a, b, c, d]

/-- The content of a string and what follows its closing quote; `pending` is the first half of a
surrogate pair, right before. Refuses a control and an unknown escape. -/
def readString (pending : Option Nat) : List Char → Option (Option (List Char) × List Char)
  | [] => none
  | '"' :: rest => some (if pending.isSome then none else some [], rest)
  | '\\' :: 'u' :: a :: b :: c :: d :: rest =>
    match codeUnit? a b c d with
    | none => none
    | some n =>
      if 0xD800 ≤ n ∧ n < 0xDC00 then
        match readString (some n) rest with
        | some (content, after) => some (if pending.isSome then none else content, after)
        | none => none
      else
        match readString none rest with
        | none => none
        | some (content, after) =>
          let head := match pending with
            | some high =>
              if 0xDC00 ≤ n ∧ n < 0xE000 then
                some (Char.ofNat (0x10000 + (high - 0xD800) * 0x400 + (n - 0xDC00)))
              else none
            | none => if 0xDC00 ≤ n ∧ n < 0xE000 then none else some (Char.ofNat n)
          some (head.bind fun h => content.map (h :: ·), after)
  | '\\' :: e :: rest =>
    match simpleEscape? e with
    | none => none
    | some c =>
      (readString none rest).map fun (content, after) =>
        (if pending.isSome then none else content.map (c :: ·), after)
  | c :: rest =>
    if c = '\\' ∨ c.toNat < 0x20 then none
    else
      (readString none rest).map fun (content, after) =>
        (if pending.isSome then none else content.map (c :: ·), after)

/-- The digits before the point: a single zero, or digits that do not start with one. -/
def readWhole (s : List Char) : Option (List Nat × List Char) :=
  match takeDigits s with
  | ([], _) => none
  | (0 :: _ :: _, _) => none
  | (digits, rest) => some (digits, rest)

def readFraction : List Char → Option (List Nat × List Char)
  | '.' :: s =>
    match takeDigits s with
    | ([], _) => none
    | (digits, rest) => some (digits, rest)
  | s => some ([], s)

def readExponent : List Char → Option (Option Int × List Char)
  | [] => some (none, [])
  | c :: s =>
    if c = 'e' ∨ c = 'E' then
      let (negative, s) := Binary64.takeSign s
      match takeDigits s with
      | ([], _) => none
      | (digits, rest) =>
        let n : Int := ofDigits 10 digits
        some (some (if negative then -n else n), rest)
    else some (none, c :: s)

def readNumeral (s : List Char) : Option (Numeral × List Char) := do
  let (negative, s) := match s with
    | '-' :: rest => (true, rest)
    | s => (false, s)
  let (whole, s) ← readWhole s
  let (fraction, s) ← readFraction s
  let (exponent, s) ← readExponent s
  return (⟨negative, whole, fraction, exponent⟩, s)

mutual

/-- A value and what follows it, for a text of fewer characters than `fuel`. -/
def readValue : (fuel : Nat) → List Char → Option (Raw × List Char)
  | 0, _ => none
  | fuel + 1, s =>
    match skipSpace s with
    | 'n' :: 'u' :: 'l' :: 'l' :: rest => some (.null, rest)
    | 't' :: 'r' :: 'u' :: 'e' :: rest => some (.bool true, rest)
    | 'f' :: 'a' :: 'l' :: 's' :: 'e' :: rest => some (.bool false, rest)
    | '"' :: rest =>
      (readString none rest).map fun (content, after) => (.string (content.map String.ofList), after)
    | '[' :: rest =>
      match skipSpace rest with
      | ']' :: after => some (.array [], after)
      | rest => (readItems fuel rest).map fun (items, after) => (.array items, after)
    | '\x7b' :: rest =>
      match skipSpace rest with
      | '\x7d' :: after => some (.object [], after)
      | rest => (readFields fuel rest).map fun (fields, after) => (.object fields, after)
    | rest => (readNumeral rest).map fun (n, after) => (.number n, after)

def readItems : (fuel : Nat) → List Char → Option (List Raw × List Char)
  | 0, _ => none
  | fuel + 1, s =>
    match readValue fuel s with
    | none => none
    | some (v, rest) =>
      match skipSpace rest with
      | ',' :: rest => (readItems fuel rest).map fun (items, after) => (v :: items, after)
      | ']' :: after => some ([v], after)
      | _ => none

def readFields : (fuel : Nat) → List Char → Option (List (Option String × Raw) × List Char)
  | 0, _ => none
  | fuel + 1, s =>
    match skipSpace s with
    | '"' :: rest =>
      match readString none rest with
      | none => none
      | some (key, rest) =>
        match skipSpace rest with
        | ':' :: rest =>
          match readValue fuel rest with
          | none => none
          | some (v, rest) =>
            let field := (key.map String.ofList, v)
            match skipSpace rest with
            | ',' :: rest =>
              (readFields fuel rest).map fun (fields, after) => (field :: fields, after)
            | '\x7d' :: after => some ([field], after)
            | _ => none
        | _ => none
    | _ => none

end

def parse? (s : List Char) : Option Raw :=
  match readValue (2 * s.length + 2) s with
  | some (v, rest) => if skipSpace rest = [] then some v else none
  | none => none

end Raw

end Allowlist.Json
