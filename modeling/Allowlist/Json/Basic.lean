import Allowlist.Binary64.Notation

/-! # JSON values

The tree of a JSON text and its compact form: no blanks, object fields in their order, and in
strings no escapes but for quotes, backslashes and controls. A double always shows a fraction or an
exponent, so that no text of a double is one of an integer; one that is no real number is `null`. -/

namespace Allowlist

open Text

namespace Json

/-- A number: an integer of 64 bits with or without sign, or a double. -/
inductive Number
  | integer (i : Int)
  | float (x : Binary64)
  deriving DecidableEq, Repr

end Json

/-- A JSON value; the fields of an object have an order. -/
inductive Json
  | null
  | bool (b : Bool)
  | number (n : Json.Number)
  | string (s : String)
  | array (items : List Json)
  | object (fields : List (String × Json))
  deriving Inhabited, Repr

namespace Json

/-- Doubles in JSON: positional from the fifth place after the point to the sixteenth before it. -/
def floatLayout : Binary64.Layout where
  tie := .toEven
  positional := fun e => -5 ≤ e && e ≤ 15
  wholeEnd := ['.', '0']
  notANumber := ['n', 'u', 'l', 'l']
  infinite := fun _ => ['n', 'u', 'l', 'l']

def escapeChar (c : Char) : List Char :=
  if c = '"' then ['\\', '"']
  else if c = '\\' then ['\\', '\\']
  else if c = '\x08' then ['\\', 'b']
  else if c = '\t' then ['\\', 't']
  else if c = '\n' then ['\\', 'n']
  else if c = '\x0c' then ['\\', 'f']
  else if c = '\r' then ['\\', 'r']
  else if c.toNat < 0x20 then ['\\', 'u'] ++ fixedWidth 16 4 c.toNat
  else [c]

def renderString (s : String) : List Char :=
  '"' :: s.toList.flatMap escapeChar ++ ['"']

def renderNumber : Number → List Char
  | .integer i => signedDecimal i
  | .float x => x.text floatLayout

mutual

def render : Json → List Char
  | .null => ['n', 'u', 'l', 'l']
  | .bool true => ['t', 'r', 'u', 'e']
  | .bool false => ['f', 'a', 'l', 's', 'e']
  | .number n => renderNumber n
  | .string s => renderString s
  | .array [] => ['[', ']']
  | .array (v :: items) => '[' :: render v ++ renderItems items ++ [']']
  | .object [] => ['\x7b', '\x7d']
  | .object ((k, v) :: fields) =>
    '\x7b' :: renderString k ++ [':'] ++ render v ++ renderFields fields ++ ['\x7d']

/-- Further items of an array, each after a comma. -/
def renderItems : List Json → List Char
  | [] => []
  | v :: items => ',' :: render v ++ renderItems items

/-- Further fields of an object, each after a comma. -/
def renderFields : List (String × Json) → List Char
  | [] => []
  | (k, v) :: fields => ',' :: renderString k ++ [':'] ++ render v ++ renderFields fields

end

def text (v : Json) : String := String.ofList (render v)

def ofUInt64 (n : UInt64) : Json := .number (.integer n.toNat)

end Json

end Allowlist
