import Allowlist.Http.Route
import Allowlist.Proofs.Store.Selection

/-! # Listings of a store in memory

What a listing of a table in memory comes to: a slice of the matching records in their order, and
the number of them where it is asked for. It fails exactly when the table is not there, and breaks
off exactly when the matching records of one that is there cannot be sorted. -/

namespace Allowlist

namespace MemoryStore

/-- The records of a table that a query within a base condition is about, in its order, unless the
sort breaks off. -/
def matching? (sorter : Sorter Record) (records : List Record) (q : ListQuery)
    (base : Option Predicate) : Option (List Record) :=
  sorted? sorter (q.filterWith base) q.orderBy records

/-- The rows of a page, out of all matching ones. -/
def pageRows (rows : List Record) (q : ListQuery) : List Record :=
  (rows.drop q.offset.toNat).take q.limit.toNat

def pageOf (rows : List Record) (q : ListQuery) (count : Bool) : Page Record :=
  if count then .counted q (pageRows rows q) (.ofNat rows.length)
  else .uncounted q (pageRows rows q)

theorem rows_pageOf (rows : List Record) (q : ListQuery) (count : Bool) :
    (pageOf rows q count).rows = pageRows rows q := by
  cases count <;> rfl

section
variable {sorter : Sorter Record} {records rows : List Record} {q : ListQuery}
  {base : Option Predicate}

theorem matching?_perm (h : matching? sorter records q base = some rows) :
    rows.Perm (records.filter (Predicate.holds? (q.filterWith base))) :=
  sorter.perm h

theorem length_matching? (h : matching? sorter records q base = some rows) :
    rows.length = records.countP (Predicate.holds? (q.filterWith base)) := by
  rw [(matching?_perm h).length_eq, List.countP_eq_length_filter]

theorem length_matching?_le (h : matching? sorter records q base = some rows) :
    rows.length ≤ records.length := by
  rw [length_matching? h]; exact List.countP_le_length

end

section
variable (s : MemoryStore) (sorter : Sorter Record) (table : String) (base : Option Predicate)
  (count : Bool)

theorem select_dataStore (q : ListQuery) :
    (s.dataStore sorter).select table (q.selection base) =
      s.ofTable table fun records => (matching? sorter records q base).map (pageRows · q) :=
  select_eq s sorter table (q.selection base)

theorem count_dataStore (filter : Option Predicate) :
    (s.dataStore sorter).count table filter = s.ofTable table fun records =>
      some (some (.ofNat (records.countP (Predicate.holds? filter)))) := by
  show (do return some (← s.count table filter) : ExceptT StoreError Option (Option UInt64)) = _
  unfold ofTable MemoryStore.count
  cases s.table table <;> rfl

theorem fetchPage_dataStore (q : ListQuery) :
    (s.dataStore sorter).fetchPage table q base count =
      s.ofTable table fun records => (matching? sorter records q base).map (pageOf · q count) := by
  simp only [DataStore.fetchPage, select_dataStore, count_dataStore]
  cases ht : s.table table with
  | error e => simp only [ofTable_error ht]; rfl
  | ok records =>
    simp only [ofTable_ok ht]
    cases h : matching? sorter records q base with
    | none => rfl
    | some rows =>
      cases count with
      | false => rfl
      | true =>
        have hpage : pageOf rows q true = .counted q (pageRows rows q)
            (.ofNat (records.countP (Predicate.holds? (q.filterWith base)))) := by
          rw [← length_matching? h]; rfl
        show _ = some (Except.ok (pageOf rows q true))
        rw [hpage]
        rfl

theorem listEnvelope_dataStore (source : ListSource) :
    (s.dataStore sorter).listEnvelope table source base count =
      s.ofTable table fun records =>
        (matching? sorter records source.resolve base).map fun rows =>
          (pageOf rows source.resolve count).toEnvelope := by
  simp only [DataStore.listEnvelope, fetchPage_dataStore, map_ofTable, Option.map_map]
  rfl

end

section
variable {s : MemoryStore} {table : String} {records : List Record}

theorem route_dataStore (ht : s.table table = .ok records) (sorter : Sorter Record)
    (c : ListConfig) (count : Bool) (params : QueryPairs) (base : Option Predicate) :
    (Http.ListRoute.mk (s.dataStore sorter) table c count).list params base =
      (matching? sorter records (c.query params) base).map fun rows =>
        .ok (pageOf rows (c.query params) count).toEnvelope := by
  simp only [Http.ListRoute.list, listEnvelope_dataStore, ofTable_ok ht]
  show (Option.map (Except.mapError _) (((matching? sorter records (c.query params) base).map _).map _) :
    Option (Except ListError (ListEnvelope Record))) = _
  rw [Option.map_map, Option.map_map]
  rfl

theorem route_dataStore_of_missing {e : StoreError} (ht : s.table table = .error e)
    (sorter : Sorter Record) (c : ListConfig) (count : Bool) (params : QueryPairs)
    (base : Option Predicate) :
    (Http.ListRoute.mk (s.dataStore sorter) table c count).list params base =
      some (.error (.storage e)) := by
  simp only [Http.ListRoute.list, listEnvelope_dataStore, ofTable_error ht]
  rfl

end

section
variable {q q' : ListQuery} {base base' : Option Predicate}

theorem matching?_congr
    (hf : Predicate.holds? (q.filterWith base) = Predicate.holds? (q'.filterWith base'))
    (ho : q.orderBy = q'.orderBy) (sorter : Sorter Record) (records : List Record) :
    matching? sorter records q base = matching? sorter records q' base' := by
  simp only [matching?, sorted?, hf, ho]

theorem pageOf_congr (hl : q.limit = q'.limit) (hs : q.offset = q'.offset) (rows : List Record)
    (count : Bool) : pageOf rows q count = pageOf rows q' count := by
  have hp : pageRows rows q = pageRows rows q' := by simp only [pageRows, hl, hs]
  simp only [pageOf, Page.counted, Page.uncounted, hp, hl, hs]

end

end MemoryStore

end Allowlist
