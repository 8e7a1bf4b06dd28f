import Allowlist.Proofs.Listing.Total
import Allowlist.Proofs.Store.Writes
import Mathlib.Data.List.Induction

/-! # A store is the history of its writes

What a store in memory holds and answers follows from the calls that were made of it since it was
empty: the rows of a table are the records put into it, in their order, and a table is there once it
was created or a record was put into it. A JSON value that is no record does neither, and no reading
changes anything. -/

namespace Allowlist.MemoryStore

/-- A call of a store. -/
inductive Operation
  | write (w : Write)
  | size (table : String)
  | select (table : String) (q : SelectQuery)
  | count (table : String) (filter : Option Predicate)
  | list (table : String) (source : ListSource) (base : Option Predicate) (counted : Bool)
    (mode : OutputMode)

/-- What a store answers where it does not fail. -/
inductive Answer
  | done
  | size (n : Nat)
  | rows (rows : List Record)
  | number (n : UInt64)
  | listing (output : ListOutput Record)

namespace Operation

/-- What a call answers, which may be an error, or nothing where a sort breaks off. -/
def answer (s : MemoryStore) (sorter : Sorter Record) :
    Operation → ExceptT StoreError Option Answer
  | write w => do let _ ← (w.perform s).1; return .done
  | size table => return .size (s.size table)
  | select table q => return .rows (← s.select sorter table q)
  | count table filter => return .number (← s.count table filter)
  | list table source base counted mode =>
    return .listing (← (s.dataStore sorter).list table source base counted mode)

def apply (s : MemoryStore) : Operation → MemoryStore
  | write w => w.apply s
  | _ => s

def isWrite : Operation → Bool
  | write _ => true
  | _ => false

def needs? : Operation → Option String
  | select table _ => some table
  | count table _ => some table
  | list table _ _ _ _ => some table
  | _ => none

end Operation

/-- The store after calls, from an empty one on. -/
def run (ops : List Operation) : MemoryStore := ops.foldl Operation.apply {}

/-! ### What the calls say -/

def Operation.record? (table : String) : Operation → Option Record
  | write w => w.record? table
  | _ => none

/-- The records put into the table, in the order of the calls. -/
def inserted (table : String) (ops : List Operation) : List Record :=
  ops.filterMap (·.record? table)

def Operation.Creates (table : String) : Operation → Prop
  | write w => w.Creates table
  | _ => False

/-- Some call made the table. -/
def Created (table : String) (ops : List Operation) : Prop := ∃ op ∈ ops, op.Creates table

/-! ### One call -/

section
variable {s : MemoryStore} {table : String}

theorem Operation.records_apply (op : Operation) (s : MemoryStore) (table : String) :
    (op.apply s).records table = s.records table ++ (op.record? table).toList := by
  cases op with
  | write w => exact w.records_apply s table
  | _ => exact (List.append_nil _).symm

theorem Operation.contains_apply (op : Operation) : (op.apply s).tables.contains table = true ↔
    s.tables.contains table = true ∨ op.Creates table := by
  cases op with
  | write w => exact w.contains_apply
  | _ => exact (or_iff_left not_false).symm

theorem Operation.answer_write (w : Write) (s : MemoryStore) (sorter : Sorter Record) :
    (Operation.write w).answer s sorter = some ((w.perform s).1.map fun _ => .done) := by
  show (do let _ ← (w.perform s).1; return Answer.done : ExceptT StoreError Option Answer) = _
  cases (w.perform s).1 <;> rfl

theorem Operation.answer_write_eq_error_iff {w : Write} {sorter : Sorter Record} {e : StoreError} :
    (Operation.write w).answer s sorter = some (.error e) ↔ (w.perform s).1 = .error e := by
  rw [answer_write]
  cases (w.perform s).1 with
  | ok done => refine ⟨fun h => ?_, fun h => ?_⟩ <;> cases h
  | error e' => exact ⟨fun h => by cases h; rfl, fun h => by cases h; rfl⟩

/-- A call that needs a table to be there gives what comes of its rows, if it is. -/
theorem Operation.answer_of_needs {op : Operation} (h : op.needs? = some table)
    (sorter : Sorter Record) :
    ∃ f : List Record → Option Answer, ∀ s : MemoryStore, op.answer s sorter = s.ofTable table f := by
  cases op with
  | write w => cases h
  | size name => cases h
  | select name q =>
    cases h
    exact ⟨_, fun s => by simp only [answer, select_eq]; exact map_ofTable ..⟩
  | count name filter =>
    cases h
    refine ⟨fun records => some (.number (.ofNat (records.countP (Predicate.holds? filter)))),
      fun s => ?_⟩
    show (do return Answer.number (← s.count table filter) : ExceptT StoreError Option Answer) = _
    unfold MemoryStore.count ofTable
    cases s.table table <;> rfl
  | list name source base counted mode =>
    cases h
    exact ⟨_, fun s => by simp only [answer, listOutput_dataStore]; exact map_ofTable ..⟩

end

/-! ### All calls -/

theorem run_concat (ops : List Operation) (op : Operation) :
    run (ops ++ [op]) = op.apply (run ops) := by
  simp only [run, List.foldl_append, List.foldl_cons, List.foldl_nil]

theorem records_run (ops : List Operation) (table : String) :
    (run ops).records table = inserted table ops := by
  induction ops using List.reverseRecOn with
  | nil => rfl
  | append_singleton ops op ih =>
    rw [run_concat, op.records_apply, ih, inserted, inserted, List.filterMap_append]
    cases h : op.record? table <;> simp [h]

theorem contains_run (ops : List Operation) (table : String) :
    (run ops).tables.contains table = true ↔ Created table ops := by
  induction ops using List.reverseRecOn with
  | nil =>
    constructor
    · intro h; cases h
    · rintro ⟨op, hop, -⟩; cases hop
  | append_singleton ops op ih =>
    rw [run_concat, op.contains_apply, ih]
    simp only [Created, List.mem_append, List.mem_singleton, or_and_right, exists_or,
      exists_eq_left]

/-- A table is there once it was made, and then holds what was put into it. -/
theorem table_run (ops : List Operation) (table : String) :
    (Created table ops ∧ (run ops).table table = .ok (inserted table ops)) ∨
      (¬ Created table ops ∧ (run ops).table table = .error (.tableNotFound table)) := by
  by_cases h : (run ops).tables.contains table = true
  · exact .inl ⟨(contains_run ops table).mp h, by rw [table_of_contains h, records_run]⟩
  · exact .inr ⟨fun hc => h ((contains_run ops table).mpr hc), table_of_not_contains h⟩

theorem run_filter_isWrite (ops : List Operation) : run (ops.filter (·.isWrite)) = run ops := by
  induction ops using List.reverseRecOn with
  | nil => rfl
  | append_singleton ops op ih =>
    rw [List.filter_append, run_concat]
    cases op with
    | write w =>
      rw [show [Operation.write w].filter (·.isWrite) = [.write w] from rfl, run_concat, ih]
    | _ => exact (congrArg run (List.append_nil _)).trans ih

/-- What holds of a store after the calls. -/
structure IsAfter (ops : List Operation) (s : MemoryStore) : Prop where
  /-- The rows of a table are the records put into it, in the order of the calls. -/
  table_eq_ok_iff : ∀ table records, s.table table = .ok records ↔
    Created table ops ∧ records = inserted table ops
  size_eq : ∀ table, s.size table = (inserted table ops).length
  size_of_missing : ∀ table, ¬ Created table ops → s.size table = 0
  /-- What needs a table fails if it was never made, and only then. -/
  read_fails_iff : ∀ (sorter : Sorter Record) (op : Operation) (table : String),
    op.needs? = some table → ∀ e, op.answer s sorter = some (.error e) ↔
      e = .tableNotFound table ∧ ¬ Created table ops
  route_fails_iff : ∀ (sorter : Sorter Record) (c : ListConfig) (counted : Bool)
    (params : QueryPairs) (base : Option Predicate) (table : String) (e : ListError),
    (Http.ListRoute.mk (s.dataStore sorter) table c counted).list params base = some (.error e) ↔
      e = .storage (.tableNotFound table) ∧ ¬ Created table ops
  /-- A write fails if it is of a JSON value that is no record, and only then. -/
  write_fails_iff : ∀ (sorter : Sorter Record) (w : Write) (e : StoreError),
    (Operation.write w).answer s sorter = some (.error e) ↔
      ∃ table row cause, w = .insertJson table row ∧ Record.ofJson row = .error cause ∧
        e = .badRow cause
  /-- What fails leaves the store as it was, and so does what breaks off. -/
  kept_on_failure : ∀ (sorter : Sorter Record) (op : Operation),
    (∀ a, op.answer s sorter ≠ some (.ok a)) → op.apply s = s
  /-- To create a table that is there keeps its rows. -/
  kept_on_create : ∀ table records, s.table table = .ok records →
    ((Operation.write (.createTable table)).apply s).table table = .ok records
  /-- Without the calls that only read the store would be the same. -/
  kept_on_read : run (ops.filter (·.isWrite)) = s

/-- A store that was empty at first is, call by call, the history of its writes. -/
theorem isAfter_run (ops : List Operation) : IsAfter ops (run ops) where
  table_eq_ok_iff table records := by
    rcases table_run ops table with ⟨hc, ht⟩ | ⟨hc, ht⟩
    · rw [ht]; simp [hc, eq_comm]
    · rw [ht]; simp [hc]
  size_eq table := congrArg List.length (records_run ops table)
  size_of_missing table h := by
    have hmissing := mt (contains_run ops table).mp h
    rw [size, records_of_not_contains hmissing]; rfl
  read_fails_iff sorter op table hneeds e := by
    obtain ⟨f, hf⟩ := op.answer_of_needs hneeds sorter
    rw [hf, ofTable_eq_error_iff]
    rcases table_run ops table with ⟨hc, ht⟩ | ⟨hc, ht⟩
    · rw [ht]; simp [hc]
    · rw [ht]; simp [hc, eq_comm]
  route_fails_iff sorter c counted params base table e := by
    rcases table_run ops table with ⟨hc, ht⟩ | ⟨hc, ht⟩
    · rw [route_dataStore ht]
      refine iff_of_false (fun h => ?_) fun h => h.2 hc
      obtain ⟨rows, -, hanswer⟩ := Option.map_eq_some_iff.mp h
      cases hanswer
    · rw [route_dataStore_of_missing ht, and_iff_left hc]
      exact ⟨fun h => (Except.error.inj (Option.some.inj h)).symm, fun h => by rw [h]⟩
  write_fails_iff sorter w e := by
    rw [Operation.answer_write_eq_error_iff]
    cases w with
    | createTable name => simp [Write.perform]
    | insert name record => simp [Write.perform]
    | insertJson name row =>
      simp only [Write.perform, insertJson_eq_error_iff, Write.insertJson.injEq]
      constructor
      · rintro ⟨cause, hrow, rfl⟩
        exact ⟨_, _, cause, ⟨rfl, rfl⟩, hrow, rfl⟩
      · rintro ⟨_, _, cause, ⟨rfl, rfl⟩, hrow, rfl⟩
        exact ⟨cause, hrow, rfl⟩
  kept_on_failure sorter op h := by
    cases op with
    | write w =>
      cases hw : (w.perform (run ops)).1 with
      | error e => exact Write.apply_of_error hw
      | ok done =>
        refine absurd ?_ (h .done)
        rw [Operation.answer_write, hw]
        rfl
    | _ => rfl
  kept_on_create _ _ h := table_createTable h
  kept_on_read := run_filter_isWrite ops

end Allowlist.MemoryStore
