import Allowlist.Binary64.Reader
import Allowlist.Number
import Allowlist.Text.Case
import Allowlist.Time.Reader
import Allowlist.Value.Basic

/-! # Coercions

A coercion turns the raw text of a parameter into a value. It never fails: a text that cannot be
read as the kind asked for becomes null, which no comparison accepts. -/

namespace Allowlist

open Text

/-- Turns a raw text into a value. -/
abbrev Coercion := String → FieldValue

namespace Coercion

def identity : Coercion := .string

/-- The integer of 64 bits of a text with at most one sign. -/
def readInteger? (s : List Char) : Option Int64 := do
  let (negative, digits) := Binary64.takeSign s
  let n ← natural? digits
  let i : Int := if negative then -(n : Int) else n
  if isInt64 i then some (Int64.ofInt i) else none

/-- An integer, blanks at the ends aside. -/
def integer : Coercion := fun raw =>
  ((readInteger? (trim raw.toList)).map FieldValue.integer).getD .null

/-- A finite double, blanks at the ends aside. -/
def float : Coercion := fun raw =>
  match Binary64.read? (trim raw.toList) with
  | some x => if x.isFinite then .float x else .null
  | none => .null

/-- A truth value, by word or digit in any case, blanks at the ends aside. -/
def boolean : Coercion := fun raw =>
  let word := String.ofList ((trim raw.toList).map Char.toLower)
  if word = "true" ∨ word = "1" then .boolean true
  else if word = "false" ∨ word = "0" then .boolean false
  else .null

/-- A UUID in any of its forms, blanks at the ends aside. -/
def uuid : Coercion := fun raw =>
  ((Uuid.parse? (trim raw.toList)).map FieldValue.uuid).getD .null

/-- A timestamp, or a date for its first instant, blanks at the ends aside. -/
def dateTime : Coercion := fun raw =>
  let s := trim raw.toList
  (((Timestamp.strict? s).or (Timestamp.day? s)).map FieldValue.dateTime).getD .null

/-- The text without blanks at the ends. -/
def trimmed : Coercion := fun raw => .string (String.ofList (trim raw.toList))

def lowercase : Coercion := fun raw => .string (String.ofList (lower raw.toList))

def uppercase : Coercion := fun raw => .string (String.ofList (upper raw.toList))

end Coercion

/-- The coercions that a descriptor can name. -/
inductive CoercionKind
  | identity
  | integer
  | float
  | boolean
  | uuid
  | dateTime
  | trimmed
  | lowercase
  | uppercase
  deriving DecidableEq, Repr

namespace CoercionKind

def coercion : CoercionKind → Coercion
  | identity => Coercion.identity
  | integer => Coercion.integer
  | float => Coercion.float
  | boolean => Coercion.boolean
  | uuid => Coercion.uuid
  | dateTime => Coercion.dateTime
  | trimmed => Coercion.trimmed
  | lowercase => Coercion.lowercase
  | uppercase => Coercion.uppercase

def name : CoercionKind → String
  | identity => "identity"
  | integer => "integer"
  | float => "float"
  | boolean => "boolean"
  | uuid => "uuid"
  | dateTime => "datetime"
  | trimmed => "trimmed"
  | lowercase => "lowercase"
  | uppercase => "uppercase"

def all : List CoercionKind :=
  [identity, integer, float, boolean, uuid, dateTime, trimmed, lowercase, uppercase]

def names : List (String × CoercionKind) := all.map fun k => (k.name, k)

end CoercionKind

end Allowlist
