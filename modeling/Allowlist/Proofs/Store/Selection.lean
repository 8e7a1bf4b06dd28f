import Allowlist.Number
import Allowlist.Proofs.Store.RecordOrder
import Allowlist.Store.Insertion

/-! # A selection is a slice of a stable sort

The rows that match stand in one order only: none of them comes after a greater one, and rows of one
place stand as they were put in, whichever the direction. In that order the kinds of values follow
each other, missing values and nulls last, or all of this is turned around. A selection is the slice
of it that its offset and limit cut out, and a count is its length. -/

namespace Allowlist

theorem FieldValue.kindRank_le (v : FieldValue) : v.kindRank ≤ 4 := by
  cases v <;> simp [kindRank]

namespace OrderBy
variable {o : OrderBy} {a b r : Record}

/-- The place of a row among the kinds of values in the ordering's column. -/
def kindPlace (o : OrderBy) (r : Record) : Nat :=
  match r.get? o.column with
  | some (.boolean _) => 0
  | some (.integer _) => 1
  | some (.float _) => 1
  | some (.uuid _) => 2
  | some (.string _) => 2
  | some (.dateTime _) => 3
  | some .null => 4
  | none => 4

theorem kindPlace_eq (o : OrderBy) (r : Record) :
    o.kindPlace r = ((o.key? r).map FieldValue.kindRank).getD 4 := by
  unfold kindPlace key?
  cases r.get? o.column with
  | none => rfl
  | some v => cases v <;> rfl

theorem kindPlace_le_of_compareKeys (h : compareKeys (o.key? a) (o.key? b) ≠ .gt) :
    o.kindPlace a ≤ o.kindPlace b := by
  rw [kindPlace_eq, kindPlace_eq]
  cases ha : o.key? a with
  | none =>
    cases hb : o.key? b with
    | none => exact Nat.le_refl _
    | some w => rw [ha, hb] at h; exact absurd rfl h
  | some v =>
    cases hb : o.key? b with
    | none => exact v.kindRank_le
    | some w => rw [ha, hb] at h; exact FieldValue.rank_le_of_order_ne_gt h

/-- Of two rows in order the kinds are in order, or in the opposite one when descending. -/
theorem kindPlace_le (h : o.compareRecords a b ≠ .gt) :
    (o.direction = .asc → o.kindPlace a ≤ o.kindPlace b) ∧
      (o.direction = .desc → o.kindPlace b ≤ o.kindPlace a) := by
  unfold compareRecords at h
  constructor
  · intro hd
    rw [hd] at h
    exact kindPlace_le_of_compareKeys h
  · intro hd
    rw [hd] at h
    refine kindPlace_le_of_compareKeys ?_
    rwa [compareKeys_swap]

end OrderBy

namespace MemoryStore

/-- What comes of the records of a table, if it is there. -/
def ofTable {α : Type} (s : MemoryStore) (table : String) (f : List Record → Option α) :
    ExceptT StoreError Option α :=
  match s.table table with
  | .ok records => (f records).map .ok
  | .error e => some (.error e)

section
variable {α β : Type} {s : MemoryStore} {table : String} {records : List Record} {e : StoreError}

theorem ofTable_ok (ht : s.table table = .ok records) (f : List Record → Option α) :
    s.ofTable table f = (f records).map Except.ok := by
  simp only [ofTable, ht]

theorem ofTable_error (ht : s.table table = .error e) (f : List Record → Option α) :
    s.ofTable table f = some (.error e) := by
  simp only [ofTable, ht]

/-- What comes of the records of a table is an error only where the table is not there. -/
theorem ofTable_eq_error_iff {f : List Record → Option α} :
    s.ofTable table f = some (.error e) ↔ s.table table = .error e := by
  cases ht : s.table table with
  | error e' =>
    rw [ofTable_error ht]
    exact ⟨fun h => by cases h; rfl, fun h => by cases h; rfl⟩
  | ok records =>
    rw [ofTable_ok ht]
    refine ⟨fun h => ?_, fun h => by cases h⟩
    obtain ⟨a, -, ha⟩ := Option.map_eq_some_iff.mp h
    cases ha

theorem map_ofTable (s : MemoryStore) (table : String) (f : List Record → Option α) (g : α → β) :
    (do return g (← s.ofTable table f) : ExceptT StoreError Option β) =
      s.ofTable table fun records => (f records).map g := by
  unfold ofTable
  cases s.table table with
  | error e => rfl
  | ok records => dsimp only; cases f records <;> rfl

end

theorem select_eq (s : MemoryStore) (sorter : Sorter Record) (table : String) (q : SelectQuery) :
    s.select sorter table q = s.ofTable table fun records =>
      (sorted? sorter q.filter q.orderBy records).map fun rows =>
        (rows.drop q.offset.toNat).take q.limit.toNat := by
  unfold ofTable select
  cases s.table table with
  | error e => rfl
  | ok records =>
    show (do
      let rows ← liftM (sorted? sorter q.filter q.orderBy records)
      return (rows.drop q.offset.toNat).take q.limit.toNat : ExceptT StoreError Option _) =
        ((sorted? sorter q.filter q.orderBy records).map _).map .ok
    cases sorted? sorter q.filter q.orderBy records <;> rfl

section
variable {s : MemoryStore} {table : String} {records rows : List Record} {filter : Option Predicate}
  {o : OrderBy}

theorem count_eq_length (hperm : rows.Perm (records.filter (Predicate.holds? filter)))
    (ht : s.table table = .ok records) :
    s.count table filter = .ok (UInt64.ofNat rows.length) := by
  rw [count, ht, hperm.length_eq, ← List.countP_eq_length_filter]
  rfl

/-- On a table without doubles in the sort column the matching rows have exactly one stable order. A
selection is the slice of it between its bounds, however large these are, and a count is its length
(as a word of 64 bits, which holds the length of any table that fits into memory). -/
theorem select_is_stable_slice (ht : s.table table = .ok records) (filter : Option Predicate)
    (hdouble : ∀ r ∈ records, o.HasNoDouble r) (sorter : Sorter Record) :
    ∃ rows : List Record,
      (IsStableSort o.compareRecords (records.filter (Predicate.holds? filter)) rows ∧
        ∀ other, IsStableSort o.compareRecords (records.filter (Predicate.holds? filter)) other →
          other = rows) ∧
      (o.direction = .asc → rows.Pairwise fun a b => o.kindPlace a ≤ o.kindPlace b) ∧
      (o.direction = .desc → rows.Pairwise fun a b => o.kindPlace b ≤ o.kindPlace a) ∧
      (∀ limit offset : UInt64, ∃ slice : List Record,
        s.select sorter table ⟨filter, o, limit, offset⟩ = some (.ok slice) ∧
          ∀ i, slice[i]? = if i < limit.toNat then rows[offset.toNat + i]? else none) ∧
      s.count table filter = .ok (UInt64.ofNat rows.length) ∧
      (records.length < wordCount → (UInt64.ofNat rows.length).toNat = rows.length) := by
  obtain ⟨rows, hrows, hsort⟩ := exists_sorted? hdouble sorter filter
  have hmatching : ∀ r ∈ records.filter (Predicate.holds? filter), o.HasNoDouble r :=
    fun r hr => hdouble r (List.mem_filter.mp hr).1
  refine ⟨rows, ⟨hsort, fun other h => ?_⟩, fun hd => ?_, fun hd => ?_,
    fun limit offset => ?_, count_eq_length hsort.perm ht, fun hn => ?_⟩
  · exact h.unique o.preorders_compareRecords hmatching hsort
  · exact hsort.ordered.imp fun h => (OrderBy.kindPlace_le h).1 hd
  · exact hsort.ordered.imp fun h => (OrderBy.kindPlace_le h).2 hd
  · refine ⟨_, by rw [select_eq, ofTable_ok ht, hrows]; rfl, fun i => ?_⟩
    rw [List.getElem?_take, List.getElem?_drop]
  · have hle : rows.length ≤ records.length := by
      rw [hsort.perm.length_eq]
      exact List.length_filter_le ..
    exact UInt64.toNat_ofNat_of_lt' (Nat.lt_of_le_of_lt hle hn)

end

def tagged (tag : FieldValue) (number : Int64) : Record :=
  .ofList [("tag", tag), ("number", .integer number)]

def epoch : Timestamp := ⟨0, 0, by decide⟩

/-- Tags of every kind but doubles, a null and none at all, and one text twice. -/
def taggedRows : List Record :=
  [tagged (.string "b") 1, tagged .null 2, tagged (.boolean true) 3, tagged (.integer 5) 4,
    tagged (.string "b") 5, .ofList [("number", .integer 6)], tagged (.dateTime epoch) 7,
    tagged (.uuid ⟨0⟩) 8]

/-- Descending, the row without a tag stands behind the one with a null, which came first, and the
two rows of one text stand as they came. -/
theorem select_tagged :
    let s : MemoryStore := ⟨.ofList [("tags", taggedRows)]⟩
    let o : OrderBy := ⟨"tag", .desc⟩
    s.table "tags" = .ok taggedRows ∧ (∀ r ∈ taggedRows, o.HasNoDouble r) ∧
      ∃ rows, IsStableSort o.compareRecords (taggedRows.filter (Predicate.holds? none)) rows ∧
        s.select .insertion "tags" ⟨none, o, 4, 1⟩ = some (.ok [.ofList [("number", .integer 6)],
          tagged (.dateTime epoch) 7, tagged (.string "b") 1, tagged (.string "b") 5]) ∧
        rows[3]? = some (tagged (.string "b") 1) ∧ rows[4]? = some (tagged (.string "b") 5) := by
  intro s o
  have ht : s.table "tags" = .ok taggedRows := rfl
  have hdouble : ∀ r ∈ taggedRows, o.HasNoDouble r := by
    intro r hr x hx
    simp only [taggedRows, List.mem_cons, List.not_mem_nil, or_false] at hr
    rcases hr with rfl | rfl | rfl | rfl | rfl | rfl | rfl | rfl <;> cases hx
  obtain ⟨rows, ⟨hsort, -⟩, -, -, hslice, -⟩ := select_is_stable_slice ht none hdouble .insertion
  obtain ⟨slice, hselect, hat⟩ := hslice 4 1
  have hrows : s.select .insertion "tags" ⟨none, o, 4, 1⟩ = some (.ok
      [.ofList [("number", .integer 6)], tagged (.dateTime epoch) 7, tagged (.string "b") 1,
        tagged (.string "b") 5]) := by
    have hsorted : (sorted? .insertion none o taggedRows).map (fun rows => (rows.drop 1).take 4) =
        some [.ofList [("number", .integer 6)], tagged (.dateTime epoch) 7, tagged (.string "b") 1,
          tagged (.string "b") 5] := by
      decide +kernel
    rw [select_eq, ofTable_ok ht]
    exact congrArg (Option.map Except.ok) hsorted
  obtain rfl := Except.ok.inj (Option.some.inj (hselect.symm.trans hrows))
  exact ⟨ht, hdouble, rows, hsort, hrows, (hat 2).symm, (hat 3).symm⟩

end MemoryStore

end Allowlist
