import Allowlist.Config.Basic

/-! # Endpoint descriptors

List endpoints as they are described in files: plain data, from which a declaration is made.
Custom filters cannot be described and are added to the declaration. Sets of endpoints merge name
by name, where a later descriptor replaces an earlier one as a whole. -/

namespace Allowlist

/-- A column filter as described. -/
structure FilterDescriptor where
  column : Column
  op : FilterOp := .eq
  coerce : Option CoercionKind := none
  deriving DecidableEq, Repr

namespace FilterDescriptor

def toFilter (d : FilterDescriptor) : ColumnFilter where
  column := d.column
  op := d.op
  coercion := (d.coerce.map CoercionKind.coercion).getD Coercion.identity

end FilterDescriptor

/-- A list endpoint as described. -/
structure Endpoint where
  filters : OrderedMap FilterDescriptor := ∅
  sortable : OrderedMap Column := ∅
  defaultSort : DefaultSort
  defaultLimit : Option UInt64 := none
  maxLimit : Option UInt64 := none
  deriving DecidableEq

namespace Endpoint

def declaration (e : Endpoint) : ListConfig.Declaration :=
  let d := ListConfig.declare e.defaultSort.key e.defaultSort.direction
  let d := e.filters.entries.foldl (fun d (name, filter) => d.filter name filter.toFilter) d
  let d := e.sortable.entries.foldl (fun d (key, column) => d.sortKey key column) d
  let d := e.defaultLimit.elim d d.setDefaultLimit
  e.maxLimit.elim d d.setMaxLimit

def build (e : Endpoint) : Except ConfigError ListConfig :=
  e.declaration.build

end Endpoint

/-- Endpoints under their names. -/
structure EndpointSet where
  endpoints : OrderedMap Endpoint := ∅
  deriving DecidableEq

namespace EndpointSet

def endpoint? (s : EndpointSet) (name : String) : Option Endpoint :=
  s.endpoints.get? name

def declaration (s : EndpointSet) (name : String) : Except ConfigError ListConfig.Declaration :=
  match s.endpoint? name with
  | some e => .ok e.declaration
  | none => .error (.unknownEndpoint name)

def build (s : EndpointSet) (name : String) : Except ConfigError ListConfig :=
  match s.endpoint? name with
  | some e => e.build
  | none => .error (.unknownEndpoint name)

/-- All endpoints of the sets; of several under one name the last set's counts. -/
def merge (sets : List EndpointSet) : EndpointSet where
  endpoints := sets.foldl (fun merged s => merged.insertAll s.endpoints) ∅

end EndpointSet

end Allowlist
