import Allowlist.Json.Basic
import Allowlist.Text.Quoted

/-! # Errors of a store

What can go wrong when a store is asked for rows, and how it is told. -/

namespace Allowlist

open Text

/-- Why a JSON value is no record. -/
inductive RecordError
  /-- It is no object; `found` says what it is. -/
  | notObject (found : String)
  /-- A field holds an array or an object. -/
  | notFieldValue
  deriving DecidableEq, Repr

namespace RecordError

def describe : Json → String
  | .null => "null"
  | .bool b => "boolean `" ++ (if b then "true" else "false") ++ "`"
  | .number (.integer i) => "integer `" ++ String.ofList (signedDecimal i) ++ "`"
  | .number (.float x) => "floating point `" ++ String.ofList (x.text Json.floatLayout) ++ "`"
  | .string s => "string " ++ String.ofList (quoted s.toList)
  | .array _ => "sequence"
  | .object _ => "map"

def message : RecordError → String
  | notObject found => "invalid type: " ++ found ++ ", expected a map"
  | notFieldValue => "data did not match any variant of untagged enum FieldValue"

end RecordError

/-- Why a store has no answer. -/
inductive StoreError
  | tableNotFound (table : String)
  | badRow (cause : RecordError)
  | invalidIdentifier (name : String)
  | other (message : String)
  deriving DecidableEq, Repr

namespace StoreError

def message : StoreError → String
  | tableNotFound table => "Table '" ++ table ++ "' not found"
  | badRow cause => "Failed to convert row into a record: " ++ cause.message
  | invalidIdentifier name => "Invalid SQL identifier: " ++ String.ofList (quoted name.toList)
  | other message => message

end StoreError

end Allowlist
