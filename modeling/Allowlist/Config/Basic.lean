import Allowlist.OrderedMap
import Allowlist.Predicate.Operator
import Allowlist.Value.Coercion

/-! # Configuration of a list endpoint

What a list endpoint lets its clients ask for: the filters, the sort keys and the bounds of a page.
A configuration is only made by building a `Declaration`, which fills in what is not declared and
refuses what no request could be answered by. So every configuration carries the proof that its
limits are in order and that its default sort key is one of its sort keys. -/

namespace Allowlist

def sortParam : String := "sort"

def orderParam : String := "order"

def limitParam : String := "limit"

def offsetParam : String := "offset"

/-- The parameters that are never filters. -/
def reservedParams : List String := [sortParam, orderParam, limitParam, offsetParam]

def isReserved (name : String) : Bool := reservedParams.contains name

/-- A filter that compares one column with the value of a parameter. -/
structure ColumnFilter where
  column : Column
  op : FilterOp := .eq
  coercion : Coercion := Coercion.identity

/-- A filter of any other form: the condition for a value, if it makes one. -/
abbrev CustomFilter := String → Option Predicate

/-- The sort key and direction of a request that picks none. -/
structure DefaultSort where
  key : String
  direction : SortDirection
  deriving DecidableEq, Repr

/-- The filters, sort keys and page bounds of a list endpoint. -/
structure ListConfig where
  filters : OrderedMap ColumnFilter
  customFilters : OrderedMap CustomFilter
  sortable : OrderedMap Column
  defaultSort : DefaultSort
  defaultSortColumn : Column
  defaultLimit : UInt64
  maxLimit : UInt64
  sort_declared : sortable.get? defaultSort.key = some defaultSortColumn
  limit_pos : 0 < defaultLimit
  limit_le : defaultLimit ≤ maxLimit

namespace ListConfig

/-- The size of a page if neither request nor declaration sets one. -/
def standardLimit : UInt64 := 20

/-- The largest size of a page if the declaration sets none. -/
def standardMaxLimit : UInt64 := 100

/-- A configuration in the making. -/
structure Declaration where
  defaultSort : DefaultSort
  filters : OrderedMap ColumnFilter := ∅
  customFilters : OrderedMap CustomFilter := ∅
  sortable : OrderedMap Column := ∅
  defaultLimit : Option UInt64 := none
  maxLimit : Option UInt64 := none

namespace Declaration

/-- Declares a column filter, in place of one of the same name. -/
def filter (d : Declaration) (name : String) (filter : ColumnFilter) : Declaration :=
  { d with filters := d.filters.insert name filter }

/-- Declares a custom filter, in place of one of the same name. -/
def customFilter (d : Declaration) (name : String) (filter : CustomFilter) : Declaration :=
  { d with customFilters := d.customFilters.insert name filter }

/-- Declares a sort key, in place of one of the same name. -/
def sortKey (d : Declaration) (key : String) (column : Column) : Declaration :=
  { d with sortable := d.sortable.insert key column }

def setDefaultLimit (d : Declaration) (limit : UInt64) : Declaration :=
  { d with defaultLimit := some limit }

def setMaxLimit (d : Declaration) (limit : UInt64) : Declaration :=
  { d with maxLimit := some limit }

def resolvedMaxLimit (d : Declaration) : UInt64 :=
  d.maxLimit.getD standardMaxLimit

/-- The size of a page whose request sets none; where it is not declared it follows a low maximum. -/
def resolvedDefaultLimit (d : Declaration) : UInt64 :=
  d.defaultLimit.getD (min standardLimit d.resolvedMaxLimit)

/-- The configuration that is declared, unless a limit or the default sort key is out of place. -/
def build (d : Declaration) : Except ConfigError ListConfig :=
  let max := d.resolvedMaxLimit
  let limit := d.resolvedDefaultLimit
  if max = 0 then
    .error (.invalidValue "max_limit" (toString max) "must be at least 1")
  else if h : 0 < limit ∧ limit ≤ max then
    match hs : d.sortable.get? d.defaultSort.key with
    | some column =>
      .ok { filters := d.filters, customFilters := d.customFilters, sortable := d.sortable,
            defaultSort := d.defaultSort, defaultSortColumn := column, defaultLimit := limit,
            maxLimit := max, sort_declared := hs, limit_pos := h.1, limit_le := h.2 }
    | none => .error (.unknownDefaultSort d.defaultSort.key)
  else
    .error (.invalidValue "default_limit" (toString limit)
      ("must be between 1 and max_limit (" ++ toString max ++ ")"))

end Declaration

/-- The declaration of a list endpoint that so far has only a default order. -/
def declare (key : String) (direction : SortDirection) : Declaration where
  defaultSort := ⟨key, direction⟩

end ListConfig

end Allowlist
