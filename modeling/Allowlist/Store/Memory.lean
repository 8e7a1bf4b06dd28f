import Allowlist.Store.Basic
import Allowlist.Store.Order
import Allowlist.Store.Sorter
import Allowlist.Value.Json

/-! # A store in memory

Tables of records, each in the order in which its records came. A table comes to be when it is
created or when its first record is put in. How a selection is sorted is left open; where the sort
breaks off so does the selection, and there is neither an answer nor an error. -/

namespace Allowlist

namespace Record

def toJson (r : Record) : Json :=
  .object (r.entries.map fun (column, value) => (column, value.toJson))

def ofJson : Json → Except RecordError Record
  | .object fields =>
    match fields.mapM fun (column, value) => (FieldValue.ofJson? value).map (column, ·) with
    | some entries => .ok (.ofList entries)
    | none => .error .notFieldValue
  | v => .error (.notObject (RecordError.describe v))

end Record

/-- Records in tables. -/
structure MemoryStore where
  tables : OrderedMap (List Record) := ∅

namespace MemoryStore

def table (s : MemoryStore) (name : String) : Except StoreError (List Record) :=
  match s.tables.get? name with
  | some records => .ok records
  | none => .error (.tableNotFound name)

/-- The records of a table, none for one that is not there. -/
def records (s : MemoryStore) (name : String) : List Record :=
  (s.tables.get? name).getD []

/-- Creates a table unless it is there. -/
def createTable (s : MemoryStore) (name : String) : MemoryStore :=
  { s with tables := s.tables.insert name (s.records name) }

/-- Puts a record at the end of a table, which is created if need be. -/
def insert (s : MemoryStore) (name : String) (record : Record) : MemoryStore :=
  { s with tables := s.tables.insert name (s.records name ++ [record]) }

/-- Puts a record that is given as a JSON value at the end of a table. -/
def insertJson (s : MemoryStore) (name : String) (row : Json) :
    Except StoreError Unit × MemoryStore :=
  match Record.ofJson row with
  | .ok record => (.ok (), s.insert name record)
  | .error cause => (.error (.badRow cause), s)

def size (s : MemoryStore) (name : String) : Nat := (s.records name).length

section
variable (sorter : Sorter Record)

/-- The records that satisfy a condition, in the order asked for, unless the sort breaks off. -/
def sorted? (filter : Option Predicate) (orderBy : OrderBy) (records : List Record) :
    Option (List Record) :=
  sorter.sort orderBy.compareRecords (records.filter (Predicate.holds? filter))

def select (s : MemoryStore) (name : String) (q : SelectQuery) :
    ExceptT StoreError Option (List Record) := do
  let records ← s.table name
  let rows ← sorted? sorter q.filter q.orderBy records
  return (rows.drop q.offset.toNat).take q.limit.toNat

def count (s : MemoryStore) (name : String) (filter : Option Predicate) : Except StoreError UInt64 :=
  (s.table name).map fun records => UInt64.ofNat (records.countP (Predicate.holds? filter))

def dataStore (s : MemoryStore) : DataStore Option Record where
  select name q := s.select sorter name q
  count name filter := return some (← s.count name filter)

end

end MemoryStore

end Allowlist
