import Allowlist.Proofs.Listing.Memory
import Allowlist.Proofs.Listing.Query

/-! # Parameters only narrow

A record is listed if the base condition and every parameter on its own let it through. So no
parameter takes back what another one or the base demands, and of the parameters that can be
filters neither the order nor the number matters. -/

namespace Allowlist

namespace Predicate
variable {record : Record}

theorem holds?_and? (ps : List Predicate) : holds? (and? ps) record = ps.all (holds record) := by
  match ps with
  | [] => rfl
  | [p] => simp [and?, holds?]
  | p :: q :: rest => simp only [and?, holds?, Option.all_some, holds, allHold_eq]

theorem holds?_both? (p q : Option Predicate) :
    holds? (both? p q) record = (holds? p record && holds? q record) := by
  cases p <;> cases q <;> simp [both?, holds?, holds, allHold]

end Predicate

open Predicate

theorem ListQuery.holds?_filterWith (q : ListQuery) (base : Option Predicate) (record : Record) :
    holds? (q.filterWith base) record = (holds? base record && holds? q.filter record) :=
  holds?_both? _ _

namespace ListConfig
variable {c : ListConfig} {base : Option Predicate} {record : Record}

theorem filter_query_single (name raw : String) :
    (c.query (.ofList [(name, raw)])).filter = c.condition? name raw := by
  show and? (List.filterMap _ [(name, raw)]) = _
  cases h : c.condition? name raw <;> simp [h, and?]

theorem filter_query_of_filter {name raw : String} {f : ColumnFilter}
    (hname : isReserved name = false) (hraw : raw ≠ "") (hf : c.filters.get? name = some f) :
    (c.query (.ofList [(name, raw)])).filter = some (f.condition raw) := by
  rw [filter_query_single, condition?_of_filter hname hraw hf]

/-- A record passes the parameters if it passes each of them on its own. -/
theorem holds?_filter_query (params : QueryPairs) :
    holds? (c.query params).filter record =
      params.toList.all fun pair => holds? (c.query (.ofList [pair])).filter record := by
  show holds? (and? (c.conditions params)) record = _
  rw [holds?_and?, conditions]
  induction params.toList with
  | nil => rfl
  | cons pair rest ih =>
    rw [List.all_cons, filter_query_single, ← ih]
    cases h : c.condition? pair.1 pair.2 <;> simp [h, holds?]

theorem holds?_filterWith_query (params : QueryPairs) :
    holds? ((c.query params).filterWith base) record = true ↔
      holds? base record = true ∧
        ∀ pair ∈ params.toList, holds? (c.query (.ofList [pair])).filter record = true := by
  rw [ListQuery.holds?_filterWith, holds?_filter_query, Bool.and_eq_true, List.all_eq_true]

theorem holds?_of_reserved {pair : String × String} (h : isReserved pair.1 = true) :
    holds? (c.query (.ofList [pair])).filter record = true := by
  rw [filter_query_single, condition?_of_reserved h]; rfl

/-- Only the parameters that can be filters decide which records pass, each as often as it likes. -/
theorem holds?_filterWith_congr {params params' : QueryPairs}
    (h : ∀ pair, pair ∈ params.unreserved ↔ pair ∈ params'.unreserved) :
    holds? ((c.query params).filterWith base) = holds? ((c.query params').filterWith base) := by
  have key (p p' : QueryPairs) (hp : ∀ pair, pair ∈ p.unreserved → pair ∈ p'.unreserved)
      (record : Record) (hh : holds? ((c.query p').filterWith base) record = true) :
      holds? ((c.query p).filterWith base) record = true := by
    rw [holds?_filterWith_query] at hh ⊢
    refine ⟨hh.1, fun pair hmem => ?_⟩
    cases hr : isReserved pair.1 with
    | true => exact holds?_of_reserved hr
    | false =>
      have hu := hp pair (List.mem_filter.mpr ⟨hmem, by simp [hr]⟩)
      exact hh.2 pair (List.mem_filter.mp hu).1
  funext record
  rw [Bool.eq_iff_iff]
  exact ⟨key params' params (fun pair => (h pair).mpr) record,
    key params params' (fun pair => (h pair).mp) record⟩

theorem query_window_congr {params params' : QueryPairs} (h : params.reserved = params'.reserved) :
    (c.query params).orderBy = (c.query params').orderBy ∧
      (c.query params).limit = (c.query params').limit ∧
      (c.query params).offset = (c.query params').offset := by
  have key {name : String} (hn : isReserved name = true) : params.get? name = params'.get? name := by
    rw [QueryPairs.get?_of_reserved hn, QueryPairs.get?_of_reserved hn, h]
  simp only [query, key (show isReserved sortParam = true by decide),
    key (show isReserved orderParam = true by decide),
    key (show isReserved limitParam = true by decide),
    key (show isReserved offsetParam = true by decide), and_self]

/-- Two lists of parameters that accept the same records and get the same listing of every table. -/
def SameListings (c : ListConfig) (base : Option Predicate) (params params' : QueryPairs) : Prop :=
  (∀ record, holds? ((c.query params).filterWith base) record =
      holds? ((c.query params').filterWith base) record) ∧
    ∀ (s : MemoryStore) (sorter : Sorter Record) (table : String) (count : Bool),
      (Http.ListRoute.mk (s.dataStore sorter) table c count).list params base =
        (Http.ListRoute.mk (s.dataStore sorter) table c count).list params' base

theorem sameListings_of_mem_iff {params params' : QueryPairs}
    (hr : params.reserved = params'.reserved)
    (hu : ∀ pair, pair ∈ params.unreserved ↔ pair ∈ params'.unreserved) :
    c.SameListings base params params' := by
  have hf : holds? ((c.query params).filterWith base) = holds? ((c.query params').filterWith base) :=
    holds?_filterWith_congr hu
  obtain ⟨ho, hl, hs⟩ := query_window_congr (c := c) hr
  refine ⟨congrFun hf, fun s sorter table count => ?_⟩
  cases ht : s.table table with
  | error e => rw [MemoryStore.route_dataStore_of_missing ht, MemoryStore.route_dataStore_of_missing ht]
  | ok records =>
    rw [MemoryStore.route_dataStore ht, MemoryStore.route_dataStore ht,
      MemoryStore.matching?_congr hf ho]
    simp only [MemoryStore.pageOf_congr hl hs]

theorem sameListings_insert {before after : List (String × String)} {pair : String × String}
    (hr : isReserved pair.1 = false) (hmem : pair ∈ before ++ after) :
    c.SameListings base (.ofList (before ++ pair :: after)) (.ofList (before ++ after)) := by
  refine sameListings_of_mem_iff ?_ fun other => ?_
  · simp [QueryPairs.reserved, QueryPairs.ofList, hr]
  · have hiff : other ∈ before ++ pair :: after ↔ other ∈ before ++ after := by
      refine ⟨fun h => ?_, fun h => ?_⟩
      · rcases List.mem_cons.mp (List.perm_middle.mem_iff.mp h) with rfl | h
        · exact hmem
        · exact h
      · exact List.perm_middle.mem_iff.mpr (List.mem_cons_of_mem _ h)
    simp only [QueryPairs.unreserved, QueryPairs.ofList, List.mem_filter, hiff]

/-- What a route returns and counts lies within its base condition. -/
theorem list_within_base {s : MemoryStore} {sorter : Sorter Record} {table : String}
    {records : List Record} {count : Bool} {params : QueryPairs}
    {answer : Except ListError (ListEnvelope Record)} (ht : s.table table = .ok records)
    (hanswer : (Http.ListRoute.mk (s.dataStore sorter) table c count).list params base = some answer) :
    ∃ envelope : ListEnvelope Record, answer = .ok envelope ∧
      (∀ row ∈ envelope.data, row ∈ records ∧ holds? base row = true) ∧
      (count = true → ∃ counted : List Record,
        counted = records.filter (holds? ((c.query params).filterWith base)) ∧
          envelope.page.total = .ofNat counted.length ∧
          ∀ row ∈ counted, holds? base row = true) := by
  have hbase (row : Record) (hrow : row ∈ records.filter
      (holds? ((c.query params).filterWith base))) : row ∈ records ∧ holds? base row = true := by
    obtain ⟨hm, hh⟩ := List.mem_filter.mp hrow
    exact ⟨hm, (holds?_filterWith_query params).mp hh |>.1⟩
  rw [MemoryStore.route_dataStore ht] at hanswer
  obtain ⟨rows, hrows, rfl⟩ := Option.map_eq_some_iff.mp hanswer
  have hperm := MemoryStore.matching?_perm hrows
  refine ⟨_, rfl, fun row hrow => ?_, ?_⟩
  · have hdata : (MemoryStore.pageOf rows (c.query params) count).toEnvelope.data =
        MemoryStore.pageRows rows (c.query params) := MemoryStore.rows_pageOf ..
    rw [hdata] at hrow
    have hm := List.mem_of_mem_drop (List.mem_of_mem_take hrow)
    exact hbase row (hperm.mem_iff.mp hm)
  · rintro rfl
    refine ⟨_, rfl, ?_, fun row hrow => (hbase row hrow).2⟩
    rw [← hperm.length_eq]
    rfl

/-- A route answers unless the sort of the matching records breaks off. -/
theorem list_eq_none_iff {s : MemoryStore} {sorter : Sorter Record} {table : String}
    {records : List Record} {count : Bool} {params : QueryPairs} (ht : s.table table = .ok records) :
    (Http.ListRoute.mk (s.dataStore sorter) table c count).list params base = none ↔
      MemoryStore.matching? sorter records (c.query params) base = none := by
  rw [MemoryStore.route_dataStore ht]
  exact Option.map_eq_none_iff

/-- Parameters narrow a listing one by one and never widen it: a record is listed if the base
condition and each parameter let it through, so rows and totals stay within the base, a further
parameter removes records only, and neither order nor repetition of filters changes a listing. A
route whose table is there answers unless the sort breaks off. -/
theorem parameters_only_narrow (c : ListConfig) (base : Option Predicate) :
    (∀ (params : QueryPairs) (record : Record),
      holds? ((c.query params).filterWith base) record = true ↔
        holds? base record = true ∧
          ∀ pair ∈ params.toList, holds? (c.query (.ofList [pair])).filter record = true) ∧
    (∀ (s : MemoryStore) (sorter : Sorter Record) (table : String) (records : List Record)
        (count : Bool) (params : QueryPairs), s.table table = .ok records →
      let route := Http.ListRoute.mk (s.dataStore sorter) table c count
      (∀ answer, route.list params base = some answer → ∃ envelope : ListEnvelope Record,
        answer = .ok envelope ∧
        (∀ row ∈ envelope.data, row ∈ records ∧ holds? base row = true) ∧
        (count = true → ∃ counted : List Record,
          counted = records.filter (holds? ((c.query params).filterWith base)) ∧
            envelope.page.total = .ofNat counted.length ∧
            ∀ row ∈ counted, holds? base row = true)) ∧
      (route.list params base = none ↔
        MemoryStore.matching? sorter records (c.query params) base = none)) ∧
    (∀ (before after : List (String × String)) (pair : String × String) (record : Record),
      holds? ((c.query (.ofList (before ++ pair :: after))).filterWith base) record = true →
        holds? ((c.query (.ofList (before ++ after))).filterWith base) record = true) ∧
    (∀ params params' : QueryPairs, params.reserved = params'.reserved →
      params.unreserved.Perm params'.unreserved → c.SameListings base params params') ∧
    (∀ (before after : List (String × String)) (pair : String × String),
      isReserved pair.1 = false → pair ∈ before ++ after →
        c.SameListings base (.ofList (before ++ pair :: after)) (.ofList (before ++ after))) := by
  refine ⟨fun params record => holds?_filterWith_query params,
    fun s sorter table records count params ht =>
      ⟨fun answer hanswer => list_within_base ht hanswer, list_eq_none_iff ht⟩,
    fun before after pair record h => ?_,
    fun params params' hr hu => sameListings_of_mem_iff hr fun pair => hu.mem_iff,
    fun before after pair hr hmem => sameListings_insert hr hmem⟩
  rw [holds?_filterWith_query] at h ⊢
  exact ⟨h.1, fun other hother =>
    h.2 other (List.perm_middle.mem_iff.mpr (List.mem_cons_of_mem _ hother))⟩

/-- Tickets by state, and by a filter of its own that asks for any ticket that is not the owner's. -/
def ticketConfig : ListConfig where
  filters := .ofList [("state", { column := "state" })]
  customFilters :=
    .ofList [("foreign", fun _ => some (.any [.not (.compare .eq "owner" (.integer 7))]))]
  sortable := .ofList [("id", "id")]
  defaultSort := ⟨"id", .asc⟩
  defaultSortColumn := "id"
  defaultLimit := 20
  maxLimit := 100
  sort_declared := by rfl
  limit_pos := by decide
  limit_le := by decide

def tickets : List Record :=
  [.ofList [("owner", .integer 7), ("state", .string "open")],
    .ofList [("owner", .integer 8), ("state", .string "open")]]

def ticketStore : MemoryStore := ⟨.ofList [("tickets", tickets)]⟩

theorem tickets_only_narrow :
    let owned : Option Predicate := some (.compare .eq "owner" (.integer 7))
    let opened := ("state", "open")
    let foreign := ("foreign", "yes")
    let ticket : Record := .ofList [("owner", .integer 7), ("state", .string "open")]
    (∃ envelope, (Http.ListRoute.mk (ticketStore.dataStore .insertion) "tickets" ticketConfig true).list
        (.ofList [opened, foreign]) owned = some (.ok envelope) ∧
      ∀ row ∈ envelope.data, holds? owned row = true) ∧
    holds? ((ticketConfig.query (.ofList [("sort", "id")])).filterWith owned) ticket = true ∧
    ticketConfig.SameListings owned (.ofList [opened, ("sort", "id"), opened, foreign])
      (.ofList [("sort", "id"), opened, foreign]) ∧
    ticketConfig.SameListings owned (.ofList [opened, ("sort", "id"), foreign])
      (.ofList [foreign, ("sort", "id"), opened]) := by
  intro owned opened foreign ticket
  obtain ⟨-, hwithin, hnarrow, hperm, hrepeat⟩ := parameters_only_narrow ticketConfig owned
  obtain ⟨hwithin, hbreaks⟩ :=
    hwithin ticketStore .insertion "tickets" _ true (.ofList [opened, foreign]) rfl
  have hanswers : ¬ MemoryStore.matching? .insertion tickets
      (ticketConfig.query (.ofList [opened, foreign])) owned = none :=
    Option.isSome_iff_ne_none.mp (by decide +kernel)
  obtain ⟨answer, hlist⟩ := Option.ne_none_iff_exists'.mp (mt hbreaks.mp hanswers)
  obtain ⟨envelope, rfl, hrows, -⟩ := hwithin answer hlist
  refine ⟨⟨envelope, hlist, fun row hrow => (hrows row hrow).2⟩, ?_, ?_, ?_⟩
  · exact hnarrow [("sort", "id")] [] opened ticket (by decide)
  · exact hrepeat [] [("sort", "id"), opened, foreign] opened (by decide) (by simp)
  · exact hperm (.ofList [opened, ("sort", "id"), foreign]) (.ofList [foreign, ("sort", "id"), opened])
      (by decide) (by decide)

end ListConfig

end Allowlist
