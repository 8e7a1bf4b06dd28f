import Allowlist.Json.Raw
import Allowlist.OrderedMap

/-! # Decoding JSON

Readers of one kind of value each, on the tree of what is written. A record is read from an object,
whose unknown fields are passed over and whose known ones must not repeat, or from an array with
its fields in order. A map keeps the first place and the last value of a repeated name. -/

namespace Allowlist.Json

/-- How many arrays and objects may stand inside one another in a value read whole. -/
def maxDepth : Nat := 127

namespace Raw

mutual

/-- The value of a tree, its object fields sorted by name, if it nests at most `depth` deep. -/
def toJson? (depth : Nat) : Raw → Option Json
  | .null => some .null
  | .bool b => some (.bool b)
  | .number n => n.toNumber?.map .number
  | .string s => s.map .string
  | .array items =>
    if depth = 0 then none else (toItems? (depth - 1) items).map .array
  | .object fields =>
    if depth = 0 then none else (toFields? (depth - 1) [] fields).map .object

def toItems? (depth : Nat) : List Raw → Option (List Json)
  | [] => some []
  | v :: rest =>
    match toJson? depth v, toItems? depth rest with
    | some v, some rest => some (v :: rest)
    | _, _ => none

/-- The values of object fields, put among those before them. -/
def toFields? (depth : Nat) (before : List (String × Json)) :
    List (Option String × Raw) → Option (List (String × Json))
  | [] => some before
  | (key, v) :: rest =>
    match key, toJson? depth v with
    | some key, some v => toFields? depth (OrderedMap.insertSorted key v before) rest
    | _, _ => none

end

def string? : Raw → Option String
  | .string s => s
  | _ => none

def bool? : Raw → Option Bool
  | .bool b => some b
  | _ => none

def uint64? : Raw → Option UInt64
  | .number n =>
    match n.toNumber? with
    | some (.integer i) => if 0 ≤ i then some (UInt64.ofNat i.toNat) else none
    | _ => none
  | _ => none

/-- One of the named values, written as its name, or as an object of its name and `null`. -/
def choice? {α : Type} (names : List (String × α)) : Raw → Option α
  | .string (some s) => names.lookup s
  | .object [(some s, .null)] => names.lookup s
  | _ => none

/-- A value that may be missing; `null` counts as missing. -/
def optional? {α : Type} (decode : Raw → Option α) : Option Raw → Option (Option α)
  | none => some none
  | some .null => some none
  | some v => (decode v).map some

/-- A value that may be missing but not `null`. -/
def withDefault? {α : Type} (decode : Raw → Option α) (default : α) : Option Raw → Option α
  | none => some default
  | some v => decode v

/-- The fields of an object under their names, if every name can be read. -/
def namedFields? (fields : List (Option String × Raw)) : Option (List (String × Raw)) :=
  fields.mapM fun (key, v) => key.map (·, v)

/-- The one field of a name: missing, there, or refused because it repeats. -/
def field? (fields : List (String × Raw)) (name : String) : Option (Option Raw) :=
  match fields.filter (·.1 = name) with
  | [] => some none
  | [(_, v)] => some (some v)
  | _ => none

def record? (names : List String) : Raw → Option (List (Option Raw))
  | .object fields => do
    let fields ← namedFields? fields
    names.mapM (field? fields)
  | .array items =>
    if items.length ≤ names.length then
      some (items.map some ++ List.replicate (names.length - items.length) none)
    else none
  | _ => none

def map? {α : Type} (decode : Raw → Option α) : Raw → Option (OrderedMap α)
  | .object fields => do
    let fields ← namedFields? fields
    let entries ← fields.mapM fun (key, v) => (decode v).map (key, ·)
    return OrderedMap.ofList entries
  | _ => none

end Raw

def parse? (s : String) : Option Json := do
  let v ← Raw.parse? s.toList
  v.toJson? maxDepth

end Allowlist.Json
