import Allowlist.Proofs.Listing.Narrowing
import Allowlist.Proofs.Listing.Total

/-! # Values that cannot be read

A text that is no value of the kind that a filter asks for becomes null. Whatever its operator, the
filter then lets no record through, and since parameters only narrow, nothing else in the request or
in the base condition opens it again: there is nothing to sort, the listing is empty, and its exact
total is 0. -/

namespace Allowlist

theorem FieldValue.sqlEq_null (v : FieldValue) : v.sqlEq .null = false := by
  rw [sqlEq, compare?_null_right]; rfl

/-- The texts that a filter reads values from: a list of them only for a list operator. -/
def ColumnFilter.texts (f : ColumnFilter) (raw : String) : List String :=
  if f.op.takesList then segments raw else [raw]

theorem ColumnFilter.toMany_operand (f : ColumnFilter) (raw : String) :
    (f.operand raw).toMany = (f.texts raw).map f.coercion := by
  unfold operand texts
  split <;> rfl

namespace Predicate
variable {record : Record} {column : Column}

theorem holds_compare_null (c : Comparison) : holds record (.compare c column .null) = false := by
  simp only [holds, compareColumn?]
  cases record.get? column with
  | none => rfl
  | some stored => rw [Option.bind_some, FieldValue.compare?_null_right]; rfl

theorem holds_isIn_of_null {values : List FieldValue} (h : ∀ v ∈ values, v = .null) :
    holds record (.isIn column values) = false := by
  simp only [holds, inColumn]
  cases record.get? column with
  | none => rfl
  | some stored =>
    refine List.any_eq_false.mpr fun v hv => ?_
    rw [h v hv, stored.sqlEq_null]
    exact Bool.false_ne_true

theorem toSingle_of_null {operand : Operand} (h : ∀ v ∈ operand.toMany, v = .null) :
    operand.toSingle = .null := by
  match operand with
  | .single v => exact h v List.mem_cons_self
  | .many [] => rfl
  | .many (v :: vs) => exact h v List.mem_cons_self

theorem holds_apply_of_null (op : FilterOp) {operand : Operand}
    (h : ∀ v ∈ operand.toMany, v = .null) : holds record (op.apply column operand) = false := by
  have hsingle := toSingle_of_null h
  cases op with
  | isIn => exact holds_isIn_of_null h
  | contains =>
    simp only [FilterOp.apply, hsingle]
    exact holds_compare_null .eq
  | eq | gt | gte | lt | lte =>
    simp only [FilterOp.apply, hsingle]
    exact holds_compare_null _

end Predicate

open Predicate

theorem ColumnFilter.holds_condition_of_null {f : ColumnFilter} {raw : String}
    (h : ∀ text ∈ f.texts raw, f.coercion text = .null) (record : Record) :
    holds record (f.condition raw) = false := by
  refine holds_apply_of_null f.op fun v hv => ?_
  rw [toMany_operand] at hv
  obtain ⟨text, htext, rfl⟩ := List.mem_map.mp hv
  exact h text htext

namespace MemoryStore
variable {q : ListQuery} {base : Option Predicate}

theorem filter_eq_nil (h : ∀ record, holds? (q.filterWith base) record = false)
    (records : List Record) : records.filter (holds? (q.filterWith base)) = [] :=
  List.filter_eq_nil_iff.mpr fun record _ => by rw [h record]; exact Bool.false_ne_true

/-- No records are in any order. -/
theorem matching?_eq_nil (h : ∀ record, holds? (q.filterWith base) record = false)
    (sorter : Sorter Record) (records : List Record) :
    matching? sorter records q base = some [] := by
  unfold matching? sorted?
  rw [filter_eq_nil h]
  have hpre : Preorders q.orderBy.compareRecords (· ∈ ([] : List Record)) :=
    ⟨fun ha => absurd ha List.not_mem_nil, fun ha => absurd ha List.not_mem_nil⟩
  obtain ⟨rows, hrows, hsort⟩ := sorter.sorts hpre
  rw [hrows, hsort.perm.eq_nil]

theorem pageRows_nil (q : ListQuery) : pageRows [] q = [] := by
  rw [pageRows, List.drop_nil, List.take_nil]

end MemoryStore

namespace ListConfig
variable {c : ListConfig} {params : QueryPairs} {name raw : String} {f : ColumnFilter}

/-- A parameter from which a column filter reads nothing but null closes the listing: no record
satisfies the condition, and every table that is there is listed as empty, with the exact total 0. -/
theorem null_value_lists_nothing (hpair : (name, raw) ∈ params.toList)
    (hname : isReserved name = false) (hraw : raw ≠ "") (hf : c.filters.get? name = some f)
    (hnull : ∀ text ∈ f.texts raw, f.coercion text = .null) (base : Option Predicate) :
    (∀ record, holds? ((c.query params).filterWith base) record = false) ∧
      ∀ (s : MemoryStore) (sorter : Sorter Record) (table : String) (records : List Record),
        s.table table = .ok records →
        s.count table ((c.query params).filterWith base) = .ok 0 ∧
        (∀ (source : ListSource) (count : Bool) (mode : OutputMode),
          source.resolve = c.query params → ∃ output : ListOutput Record,
            (s.dataStore sorter).list table source base count mode = some (.ok output) ∧
              output.items = [] ∧ (count = true → output.total = 0)) ∧
        ∀ count : Bool, ∃ envelope : ListEnvelope Record,
          (Http.ListRoute.mk (s.dataStore sorter) table c count).list params base =
              some (.ok envelope) ∧
            envelope.data = [] ∧ (count = true → envelope.page.total = 0) := by
  have hclosed (record : Record) : holds? ((c.query params).filterWith base) record = false := by
    refine Bool.eq_false_iff.mpr fun h => ?_
    have hpasses := ((holds?_filterWith_query params).mp h).2 _ hpair
    rw [filter_query_single, condition?_of_filter hname hraw hf, holds?, Option.all_some,
      f.holds_condition_of_null hnull] at hpasses
    exact Bool.false_ne_true hpasses
  refine ⟨hclosed, fun s sorter table records ht => ?_⟩
  have hmatching := MemoryStore.matching?_eq_nil hclosed sorter records
  have hrows (count : Bool) : (MemoryStore.pageOf [] (c.query params) count).rows = [] :=
    (MemoryStore.rows_pageOf ..).trans (MemoryStore.pageRows_nil _)
  refine ⟨?_, fun source count mode hsource => ?_, fun count => ?_⟩
  · have hnone : records.countP (holds? ((c.query params).filterWith base)) = 0 := by
      rw [List.countP_eq_length_filter, MemoryStore.filter_eq_nil hclosed, List.length_nil]
    rw [MemoryStore.count, ht]
    exact congrArg (fun n => Except.ok (UInt64.ofNat n)) hnone
  · rw [← hsource] at hmatching hrows
    refine ⟨_, MemoryStore.listOutput_of_matching? ht hmatching count mode, ?_, ?_⟩
    · rw [Page.items_output, hrows]
    · rintro rfl; rw [Page.total_output]; rfl
  · refine ⟨(MemoryStore.pageOf [] (c.query params) count).toEnvelope, ?_, hrows count, ?_⟩
    · rw [MemoryStore.route_dataStore ht, hmatching]; rfl
    · rintro rfl; rfl

/-- The owner is one of several numbers. -/
def ownerFilter : ColumnFilter where
  column := "owner"
  op := .isIn
  coercion := Coercion.integer

/-- Tickets by their owners, beside the custom filter for those of others. -/
def ownerConfig : ListConfig :=
  { ticketConfig with filters := .ofList [("owner", ownerFilter)] }

/-- None of three segments is a number: although every ticket is open and one of them is of another
owner, the listing without counting and the one with it are empty. -/
theorem no_number_lists_nothing :
    let params : QueryPairs := .ofList [("foreign", "yes"), ("owner", "x,,9th"), ("sort", "id")]
    let opened : Option Predicate := some (.compare .eq "state" (.string "open"))
    ("owner", "x,,9th") ∈ params.toList ∧ isReserved "owner" = false ∧
      ownerConfig.filters.get? "owner" = some ownerFilter ∧
      ownerFilter.texts "x,,9th" = ["x", "", "9th"] ∧
      (∀ text ∈ ownerFilter.texts "x,,9th", Coercion.integer text = .null) ∧
      ∀ count : Bool, ∃ output : ListOutput Record,
        (ticketStore.dataStore .insertion).list "tickets" (.raw (.pairs params) ownerConfig) opened
            count .envelope = some (.ok output) ∧
          output.items = [] ∧ (count = true → output.total = 0) := by
  intro params opened
  have hpair : ("owner", "x,,9th") ∈ params.toList := by decide
  have htexts : ownerFilter.texts "x,,9th" = ["x", "", "9th"] := by decide
  have hnull : ∀ text ∈ ownerFilter.texts "x,,9th", Coercion.integer text = .null := by
    rw [htexts]; decide
  obtain ⟨-, hlists⟩ := null_value_lists_nothing (c := ownerConfig) hpair (by decide) (by decide)
    (f := ownerFilter) rfl hnull opened
  obtain ⟨-, hlist, -⟩ := hlists ticketStore .insertion "tickets" _ rfl
  exact ⟨hpair, by decide, rfl, htexts, hnull, fun count => hlist _ count .envelope rfl⟩

end ListConfig

end Allowlist
