import Allowlist.Json.Decode
import Allowlist.Number
import Allowlist.Time.Reader
import Allowlist.Value.Basic

/-! # Field values in JSON

A value is written as the plain JSON value it looks like. Reading finds the kind again: an integer
of 64 bits, else a double; a string that is a UUID, else a timestamp, else text. Arrays and objects
are no field values. -/

namespace Allowlist.FieldValue

/-- The mark for universal time in JSON. -/
def jsonZone : List Char := ['Z']

def toJson : FieldValue → Json
  | null => .null
  | boolean b => .bool b
  | integer i => .number (.integer i.toInt)
  | float x => if x.isFinite then .number (.float x) else .null
  | uuid u => .string (String.ofList u.text)
  | dateTime t => .string (String.ofList (t.text jsonZone))
  | string s => .string s

def ofString (s : String) : FieldValue :=
  match Uuid.parse? s.toList with
  | some u => uuid u
  | none =>
    match Timestamp.relaxed? s.toList with
    | some t => dateTime t
    | none => string s

def ofNumber : Json.Number → FieldValue
  | .integer i =>
    if isInt64 i then integer (Int64.ofInt i) else float (Binary64.ofInt i)
  | .float x => float x

/-- The field value of a JSON value that is neither array nor object. -/
def ofJson? : Json → Option FieldValue
  | .null => some null
  | .bool b => some (boolean b)
  | .number n => some (ofNumber n)
  | .string s => some (ofString s)
  | .array _ => none
  | .object _ => none

def ofRaw? : Json.Raw → Option FieldValue
  | .array _ => none
  | .object _ => none
  | v => (v.toJson? 0).bind ofJson?

def parseJson? (s : String) : Option FieldValue :=
  (Json.Raw.parse? s.toList).bind ofRaw?

end Allowlist.FieldValue
