import Allowlist.Listing.Page
import Allowlist.Listing.Query
import Allowlist.Store.Basic

/-! # Running list queries

A list query is run as one selection of rows, and one count of all rows under the same condition if
an exact total is wanted. Without the count the total is the number of rows known of, and more rows
are taken to follow a page that came back full. The count is not asked for when the selection
fails. -/

namespace Allowlist

/-- What to run: a query, or parameters with the configuration to read them under. -/
inductive ListSource
  | parsed (query : ListQuery)
  | raw (input : QueryInput) (config : ListConfig)

def ListSource.resolve : ListSource → ListQuery
  | parsed q => q
  | raw input config => config.queryOf input

/-- The rows of a page and where it stands. -/
structure Page (Row : Type) where
  rows : List Row
  total : UInt64
  limit : UInt64
  offset : UInt64
  hasMore : Bool
  deriving Repr

/-- The rows of a page with the total. -/
structure ListRows (Row : Type) where
  rows : List Row
  total : UInt64
  hasMore : Bool
  deriving Repr

namespace Page
variable {Row : Type}

def toRows (p : Page Row) : ListRows Row := ⟨p.rows, p.total, p.hasMore⟩

def toEnvelope (p : Page Row) : ListEnvelope Row :=
  ⟨p.rows, .withHasMore p.total p.limit p.offset p.rows.length p.hasMore⟩

/-- The page of rows out of a known total. -/
def counted (q : ListQuery) (rows : List Row) (total : UInt64) : Page Row where
  rows := rows
  total := total
  limit := q.limit
  offset := q.offset
  hasMore := advance q.offset rows.length < total

/-- The page of rows whose total is not known. -/
def uncounted (q : ListQuery) (rows : List Row) : Page Row where
  rows := rows
  total := advance q.offset rows.length
  limit := q.limit
  offset := q.offset
  hasMore := rows.length = q.limit.toNat

end Page

namespace ListQuery

/-- The selection that the query makes within a base condition. -/
def selection (q : ListQuery) (base : Option Predicate) : SelectQuery where
  filter := q.filterWith base
  orderBy := q.orderBy
  limit := q.limit
  offset := q.offset

end ListQuery

/-- How a listing is handed out. -/
inductive OutputMode
  | rows
  | envelope
  deriving DecidableEq, Repr

/-- A listing in the form that was asked for. -/
inductive ListOutput (Row : Type)
  | rows (rows : ListRows Row)
  | envelope (envelope : ListEnvelope Row)
  deriving Repr

namespace DataStore
variable {m : Type → Type} [Monad m] {Row : Type}

/-- The page of a query within a base condition, with an exact total if `count` is set. -/
def fetchPage (store : DataStore m Row) (table : String) (q : ListQuery) (base : Option Predicate)
    (count : Bool) : ExceptT StoreError m (Page Row) := do
  let selection := q.selection base
  let rows ← store.select table selection
  if count then
    let total ← store.count table selection.filter
    return .counted q rows (total.getD 0)
  else
    return .uncounted q rows

def listRows (store : DataStore m Row) (table : String) (source : ListSource)
    (base : Option Predicate) (count : Bool) : ExceptT StoreError m (ListRows Row) :=
  return (← store.fetchPage table source.resolve base count).toRows

def listEnvelope (store : DataStore m Row) (table : String) (source : ListSource)
    (base : Option Predicate) (count : Bool) : ExceptT StoreError m (ListEnvelope Row) :=
  return (← store.fetchPage table source.resolve base count).toEnvelope

def list (store : DataStore m Row) (table : String) (source : ListSource)
    (base : Option Predicate) (count : Bool) (mode : OutputMode) :
    ExceptT StoreError m (ListOutput Row) :=
  match mode with
  | .rows => return .rows (← store.listRows table source base count)
  | .envelope => return .envelope (← store.listEnvelope table source base count)

end DataStore

end Allowlist
