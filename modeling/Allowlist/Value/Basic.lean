import Allowlist.Binary64.Notation
import Allowlist.Time.Timestamp
import Allowlist.Uuid

/-! # Field values

The values that columns hold and filters compare with. Comparison is that of a database: nothing
compares with null, integers and doubles compare as numbers, a UUID compares with a text through
its hyphenated form, and values of other different kinds do not compare. -/

namespace Allowlist

open Text

/-- A value of a column. -/
inductive FieldValue
  | null
  | boolean (b : Bool)
  | integer (i : Int64)
  | float (x : Binary64)
  | uuid (u : Uuid)
  | dateTime (t : Timestamp)
  | string (s : String)
  deriving DecidableEq, Repr

namespace FieldValue

/-- Doubles in texts: never an exponent, and no fraction on a whole number. -/
def floatLayout : Binary64.Layout where
  tie := .upward
  positional := fun _ => true
  wholeEnd := []
  notANumber := ['N', 'a', 'N']
  infinite := fun negative => if negative then ['-', 'i', 'n', 'f'] else ['i', 'n', 'f']

/-- The mark for universal time in the text of a timestamp. -/
def zone : List Char := ['+', '0', '0', ':', '0', '0']

/-- The text that patterns are matched against; null has none. -/
def text? : FieldValue → Option String
  | null => none
  | boolean b => some (if b then "true" else "false")
  | integer i => some (String.ofList (signedDecimal i.toInt))
  | float x => some (String.ofList (x.text floatLayout))
  | uuid u => some (String.ofList u.text)
  | dateTime t => some (String.ofList (t.text zone))
  | string s => some s

def string? : FieldValue → Option String
  | string s => some s
  | _ => none

def integer? : FieldValue → Option Int64
  | integer i => some i
  | _ => none

def isNull : FieldValue → Bool
  | null => true
  | _ => false

def compare? : FieldValue → FieldValue → Option Ordering
  | boolean a, boolean b => some (compare a b)
  | integer a, integer b => some (compare a.toInt b.toInt)
  | integer a, float b => (Binary64.ofInt a.toInt).compare? b
  | float a, integer b => a.compare? (Binary64.ofInt b.toInt)
  | float a, float b => a.compare? b
  | uuid a, uuid b => some (a.compare b)
  | uuid a, string b => some (compare (String.ofList a.text) b)
  | string a, uuid b => some (compare a (String.ofList b.text))
  | dateTime a, dateTime b => some (a.compare b)
  | string a, string b => some (compare a b)
  | _, _ => none

/-- Whether the values compare as equal, which null never does. -/
def sqlEq (a b : FieldValue) : Bool :=
  a.compare? b == some .eq

/-- Whether the values are of one kind and equal as such: doubles by their value, so that zero has
one sign less, and a double that is no number does not equal itself. -/
def same : FieldValue → FieldValue → Bool
  | float a, float b => a.compare? b == some .eq
  | a, b => a == b

theorem compare?_null_left (v : FieldValue) : compare? null v = none := by
  cases v <;> rfl

theorem compare?_null_right (v : FieldValue) : compare? v null = none := by
  cases v <;> rfl

end FieldValue

end Allowlist
