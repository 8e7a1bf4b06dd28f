import Allowlist.Config.Endpoint
import Allowlist.Json.Decode

/-! # Endpoint descriptors in JSON

A descriptor is an object with a field for each of its parts; what is not set is left out. -/

namespace Allowlist

open Json

def presentFields (fields : List (String × Option Json)) : List (String × Json) :=
  fields.filterMap fun (name, value) => value.map (name, ·)

namespace DefaultSort

def toJson (s : DefaultSort) : Json :=
  .object [("key", .string s.key), ("direction", .string s.direction.name)]

def fieldNames : List String := ["key", "direction"]

def ofRaw? (v : Raw) : Option DefaultSort := do
  match ← v.record? fieldNames with
  | [some key, some direction] =>
    return ⟨← key.string?, ← direction.choice? SortDirection.names⟩
  | _ => none

end DefaultSort

namespace FilterDescriptor

def toJson (d : FilterDescriptor) : Json :=
  .object (presentFields [
    ("column", some (.string d.column)),
    ("op", some (.string d.op.name)),
    ("coerce", d.coerce.map (.string ·.name))])

def fieldNames : List String := ["column", "op", "coerce"]

def ofRaw? (v : Raw) : Option FilterDescriptor := do
  match ← v.record? fieldNames with
  | [some column, op, coerce] =>
    return { column := ← column.string?,
             op := ← Raw.withDefault? (·.choice? FilterOp.names) .eq op,
             coerce := ← Raw.optional? (·.choice? CoercionKind.names) coerce }
  | _ => none

end FilterDescriptor

namespace Endpoint

def toJson (e : Endpoint) : Json :=
  .object (presentFields [
    ("filters", some (.object (e.filters.entries.map fun (name, d) => (name, d.toJson)))),
    ("sortable", some (.object (e.sortable.entries.map fun (key, column) => (key, .string column)))),
    ("default_sort", some e.defaultSort.toJson),
    ("default_limit", e.defaultLimit.map Json.ofUInt64),
    ("max_limit", e.maxLimit.map Json.ofUInt64)])

def fieldNames : List String :=
  ["filters", "sortable", "default_sort", "default_limit", "max_limit"]

def ofRaw? (v : Raw) : Option Endpoint := do
  match ← v.record? fieldNames with
  | [filters, sortable, some defaultSort, defaultLimit, maxLimit] =>
    return { filters := ← Raw.withDefault? (Raw.map? FilterDescriptor.ofRaw?) ∅ filters,
             sortable := ← Raw.withDefault? (Raw.map? Raw.string?) ∅ sortable,
             defaultSort := ← DefaultSort.ofRaw? defaultSort,
             defaultLimit := ← Raw.optional? Raw.uint64? defaultLimit,
             maxLimit := ← Raw.optional? Raw.uint64? maxLimit }
  | _ => none

end Endpoint

namespace EndpointSet

def toJson (s : EndpointSet) : Json :=
  .object [("endpoints", .object (s.endpoints.entries.map fun (name, e) => (name, e.toJson)))]

end EndpointSet

end Allowlist
