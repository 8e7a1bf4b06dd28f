import Allowlist.Proofs.OrderedMap
import Allowlist.Store.Memory

/-! # Writes to a store in memory

A write leaves each table as it is or puts one record at its end. Nothing is taken out of a table
and no record in it changes its place. A table is there after a write if it was there before or the
write is to it, unless what is written is a JSON value that is no record. -/

namespace Allowlist.MemoryStore

/-- A write: a table is created, or a record is put in, as such or as a JSON value. -/
inductive Write
  | createTable (name : String)
  | insert (name : String) (record : Record)
  | insertJson (name : String) (row : Json)

/-- How a write ends, and the store that it leaves. -/
def Write.perform (s : MemoryStore) : Write → Except StoreError Unit × MemoryStore
  | createTable name => (.ok (), s.createTable name)
  | insert name record => (.ok (), s.insert name record)
  | insertJson name row => s.insertJson name row

def Write.apply (s : MemoryStore) (w : Write) : MemoryStore := (w.perform s).2

def Write.record? (table : String) : Write → Option Record
  | createTable _ => none
  | insert name record => if table = name then some record else none
  | insertJson name row => if table = name then (Record.ofJson row).toOption else none

/-- After the write the table is there, whether it was before or not. -/
def Write.Creates (table : String) : Write → Prop
  | createTable name => table = name
  | insert name _ => table = name
  | insertJson name row => table = name ∧ ∃ record, Record.ofJson row = .ok record

/-! ### The records of a table -/

section
variable (s : MemoryStore) (name table : String)

theorem records_createTable : (s.createTable name).records table = s.records table := by
  unfold createTable records
  rw [OrderedMap.get?_insert]
  split
  · next h => rw [h]; rfl
  · rfl

theorem records_insert (record : Record) : (s.insert name record).records table =
    s.records table ++ (if table = name then some record else none).toList := by
  unfold insert
  by_cases h : table = name
  · rw [if_pos h, h, records, OrderedMap.get?_insert, if_pos rfl]; rfl
  · rw [if_neg h, Option.toList_none, List.append_nil, records, OrderedMap.get?_insert, if_neg h]
    rfl

theorem Write.records_apply (w : Write) :
    (w.apply s).records table = s.records table ++ (w.record? table).toList := by
  cases w with
  | createTable name => exact (records_createTable s name table).trans (List.append_nil _).symm
  | insert name record => exact records_insert s name table record
  | insertJson name row =>
    simp only [apply, perform, MemoryStore.insertJson, record?]
    cases Record.ofJson row with
    | error cause => simp [Except.toOption]
    | ok record => exact records_insert s name table record

theorem Write.records_apply_cases (w : Write) : (w.apply s).records table = s.records table ∨
    ∃ r, (w.apply s).records table = s.records table ++ [r] := by
  rw [w.records_apply]
  cases w.record? table with
  | none => exact .inl (List.append_nil _)
  | some r => exact .inr ⟨r, rfl⟩

end

/-! ### Writes that fail -/

section
variable {s : MemoryStore} {name : String} {row : Json}

/-- Only a JSON value that is no record is refused. -/
theorem insertJson_eq_error_iff {e : StoreError} : (s.insertJson name row).1 = .error e ↔
    ∃ cause, Record.ofJson row = .error cause ∧ e = .badRow cause := by
  unfold insertJson
  cases Record.ofJson row with
  | ok record => simp
  | error cause => simp [eq_comm]

/-- A JSON value that is refused is not put in, nor is a table created for it. -/
theorem insertJson_of_error {cause : RecordError} (h : Record.ofJson row = .error cause) :
    (s.insertJson name row).2 = s := by
  unfold insertJson
  rw [h]

theorem Write.apply_of_error {w : Write} {e : StoreError} (h : (w.perform s).1 = .error e) :
    w.apply s = s := by
  cases w with
  | createTable name => cases h
  | insert name record => cases h
  | insertJson name row =>
    obtain ⟨cause, hrow, -⟩ := insertJson_eq_error_iff.mp h
    exact insertJson_of_error hrow

end

/-! ### Which tables are there -/

section
variable {s : MemoryStore} {name table : String} {records : List Record}

theorem records_of_table (h : s.table name = .ok records) : s.records name = records := by
  unfold table at h
  unfold MemoryStore.records
  cases hget : s.tables.get? name with
  | none => rw [hget] at h; cases h
  | some found => rw [hget] at h; cases h; rfl

theorem table_of_contains (h : s.tables.contains table = true) :
    s.table table = .ok (s.records table) := by
  obtain ⟨records, hget⟩ := Option.isSome_iff_exists.mp h
  rw [MemoryStore.table, MemoryStore.records, hget]; rfl

theorem get?_of_not_contains (h : ¬ s.tables.contains table = true) :
    s.tables.get? table = none := by
  simpa [OrderedMap.contains] using h

theorem table_of_not_contains (h : ¬ s.tables.contains table = true) :
    s.table table = .error (.tableNotFound table) := by
  rw [MemoryStore.table, get?_of_not_contains h]

theorem records_of_not_contains (h : ¬ s.tables.contains table = true) :
    s.records table = [] := by
  rw [MemoryStore.records, get?_of_not_contains h]; rfl

theorem contains_insert_tables (records : List Record) :
    (s.tables.insert name records).contains table = true ↔
      s.tables.contains table = true ∨ table = name := by
  rw [OrderedMap.contains, OrderedMap.get?_insert]
  by_cases h : table = name
  · simp [h]
  · simp [h, OrderedMap.contains]

theorem Write.contains_apply (w : Write) : (w.apply s).tables.contains table = true ↔
    s.tables.contains table = true ∨ w.Creates table := by
  cases w with
  | createTable name => exact contains_insert_tables _
  | insert name record => exact contains_insert_tables _
  | insertJson name row =>
    cases h : Record.ofJson row with
    | error cause => simp [apply, perform, MemoryStore.insertJson, Creates, h]
    | ok record =>
      have hcreates : (insertJson name row).Creates table ↔ table = name :=
        and_iff_left ⟨record, h⟩
      simp only [apply, perform, MemoryStore.insertJson, h, hcreates]
      exact contains_insert_tables _

theorem table_createTable (h : s.table table = .ok records) :
    (s.createTable table).table table = .ok records := by
  rw [MemoryStore.table, createTable, OrderedMap.get?_insert, if_pos rfl, records_of_table h]

end

end Allowlist.MemoryStore
