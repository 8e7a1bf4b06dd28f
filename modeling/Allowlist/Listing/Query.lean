import Allowlist.Config.Basic
import Allowlist.Params.Input
import Allowlist.Params.LeadingInteger

/-! # List queries

What a request asks of a list endpoint, read under the endpoint's configuration. Every request has
a query: parameters that are not declared are passed over, a sort key or direction that is not
allowed gives way to the default, and the page is brought within its bounds. -/

namespace Allowlist

open Text

/-- What a request asks for: condition, order and page. -/
structure ListQuery where
  filter : Option Predicate
  orderBy : OrderBy
  limit : UInt64
  offset : UInt64
  deriving Repr

namespace ListQuery

/-- The condition of the query within a base condition, either of which may be absent. -/
def filterWith (q : ListQuery) (base : Option Predicate) : Option Predicate :=
  Predicate.both? base q.filter

def sameFilter : Option Predicate → Option Predicate → Bool
  | some p, some q => p.same q
  | none, none => true
  | _, _ => false

def same (p q : ListQuery) : Bool :=
  sameFilter p.filter q.filter && p.orderBy == q.orderBy && p.limit == q.limit &&
    p.offset == q.offset

end ListQuery

/-- The texts between the commas of a value. -/
def segments (raw : String) : List String := (splitAt ',' raw.toList).map String.ofList

namespace ColumnFilter

def operand (f : ColumnFilter) (raw : String) : Operand :=
  if f.op.takesList then .many ((segments raw).map f.coercion) else .single (f.coercion raw)

/-- The condition that the filter makes of a value. -/
def condition (f : ColumnFilter) (raw : String) : Predicate :=
  f.op.apply f.column (f.operand raw)

end ColumnFilter

namespace ListConfig

def condition? (c : ListConfig) (name raw : String) : Option Predicate :=
  if isReserved name || raw.isEmpty then none
  else
    match c.filters.get? name with
    | some filter => some (filter.condition raw)
    | none => (c.customFilters.get? name).bind (· raw)

def conditions (c : ListConfig) (params : QueryPairs) : List Predicate :=
  params.toList.filterMap fun (name, raw) => c.condition? name raw

def sortColumn (c : ListConfig) (key : Option String) : Column :=
  match key with
  | some key => if key.isEmpty then c.defaultSortColumn
    else (c.sortable.get? key).getD c.defaultSortColumn
  | none => c.defaultSortColumn

def sortDirection (c : ListConfig) (order : Option String) : SortDirection :=
  (order.bind SortDirection.parse?).getD c.defaultSort.direction

/-- The requested size of the page within its bounds, or the default one. -/
def pageLimit (c : ListConfig) (raw : Option String) : UInt64 :=
  match raw.bind leadingInteger? with
  | some requested => min (UInt64.ofNat (max requested 1).toNat) c.maxLimit
  | none => c.defaultLimit

def pageOffset (raw : Option String) : UInt64 :=
  match raw.bind leadingInteger? with
  | some requested => UInt64.ofNat requested.toNat
  | none => 0

def query (c : ListConfig) (params : QueryPairs) : ListQuery where
  filter := Predicate.and? (c.conditions params)
  orderBy := ⟨c.sortColumn (params.get? sortParam), c.sortDirection (params.get? orderParam)⟩
  limit := c.pageLimit (params.get? limitParam)
  offset := pageOffset (params.get? offsetParam)

def queryOf (c : ListConfig) (input : QueryInput) : ListQuery :=
  c.query input.normalize

end ListConfig

end Allowlist
