import Allowlist.Listing.Query
import Allowlist.Proofs.Entries
import Allowlist.Proofs.Params.LeadingInteger

/-! # What a query takes from its parameters

Reserved parameters make the order and the page, all others the condition. The page is always in
bounds: it has at least one row, and it starts at an offset of 63 bits. -/

namespace Allowlist

open Text

namespace QueryPairs
variable {params : QueryPairs} {name other value : String}

theorem get?_push_self : (params.push name value).get? name = some value := by
  simp [get?, push]

theorem get?_push_of_ne (h : other ≠ name) :
    (params.push name value).get? other = params.get? other := by
  have hb : (other == name) = false := beq_false_of_ne h
  simp [get?, push, List.lookup_cons, hb]

theorem get?_eq_some_iff : params.get? name = some value ↔ IsLast params.toList name value :=
  lookup_reverse_eq_some_iff

end QueryPairs

theorem SortDirection.parse?_eq_some_iff {s : String} {d : SortDirection} :
    SortDirection.parse? s = some d ↔ s = d.name := by
  simp only [parse?, names, OrderedMap.lookup_cons_eq, List.lookup_nil]
  cases d <;> split <;> simp_all [name]

theorem lookup_filter {α : Type} {p : String × α → Bool} {name : String}
    (h : ∀ value, p (name, value) = true) (entries : List (String × α)) :
    (entries.filter p).lookup name = entries.lookup name := by
  induction entries with
  | nil => rfl
  | cons entry rest ih =>
    obtain ⟨key, value⟩ := entry
    by_cases hk : name = key
    · subst hk; simp [h value]
    · have hb : (name == key) = false := beq_false_of_ne hk
      rw [List.filter_cons]
      split <;> simp [List.lookup_cons, hb, ih]

def QueryPairs.reserved (params : QueryPairs) : List (String × String) :=
  params.toList.filter fun pair => isReserved pair.1

def QueryPairs.unreserved (params : QueryPairs) : List (String × String) :=
  params.toList.filter fun pair => !isReserved pair.1

theorem QueryPairs.get?_of_reserved {params : QueryPairs} {name : String}
    (h : isReserved name = true) : params.get? name = params.reserved.reverse.lookup name := by
  rw [reserved, ← List.filter_reverse, lookup_filter fun _ => h]
  rfl

namespace ListConfig
variable {c : ListConfig} {params : QueryPairs}

theorem condition?_of_reserved {name : String} (h : isReserved name = true) (raw : String) :
    c.condition? name raw = none := by
  simp [condition?, h]

theorem condition?_of_filter {name raw : String} {f : ColumnFilter}
    (hname : isReserved name = false) (hraw : raw ≠ "") (hf : c.filters.get? name = some f) :
    c.condition? name raw = some (f.condition raw) := by
  have hfilled : raw.isEmpty = false := by simpa using hraw
  simp [condition?, hname, hfilled, hf]

theorem conditions_push_of_reserved {name : String} (h : isReserved name = true) (raw : String) :
    c.conditions (params.push name raw) = c.conditions params := by
  simp [conditions, QueryPairs.push, condition?_of_reserved h]

/-- A further offset takes the place of the one before and touches nothing else. -/
theorem query_push_offset (raw : String) :
    c.query (params.push offsetParam raw) =
      { c.query params with offset := pageOffset (some raw) } := by
  simp only [query, conditions_push_of_reserved (c := c) (show isReserved offsetParam = true by decide),
    QueryPairs.get?_push_self,
    QueryPairs.get?_push_of_ne (show sortParam ≠ offsetParam by decide),
    QueryPairs.get?_push_of_ne (show orderParam ≠ offsetParam by decide),
    QueryPairs.get?_push_of_ne (show limitParam ≠ offsetParam by decide)]

/-! ### The order -/

theorem sortColumn_eq {key : String} {column : Column} (hne : key ≠ "")
    (h : c.sortable.get? key = some column) : c.sortColumn (some key) = column := by
  have hfilled : key.isEmpty = false := by simpa using hne
  simp [sortColumn, hfilled, h]

theorem sortColumn_eq_default {requested : Option String}
    (h : ∀ key, requested = some key → key ≠ "" → c.sortable.get? key = none) :
    c.sortColumn requested = c.defaultSortColumn := by
  cases requested with
  | none => rfl
  | some key =>
    by_cases hne : key = ""
    · simp [sortColumn, hne]
    · have hfilled : key.isEmpty = false := by simpa using hne
      simp [sortColumn, hfilled, h key rfl hne]

theorem sortDirection_name (d : SortDirection) : c.sortDirection (some d.name) = d := by
  simp [sortDirection, SortDirection.parse?_eq_some_iff.mpr rfl]

theorem sortDirection_eq_default {requested : Option String}
    (h : ∀ d : SortDirection, requested ≠ some d.name) :
    c.sortDirection requested = c.defaultSort.direction := by
  have hnone : requested.bind SortDirection.parse? = none := by
    rw [Option.bind_eq_none_iff]
    intro s hs
    rw [Option.eq_none_iff_forall_ne_some]
    intro d hd
    exact h d (hs.trans (congrArg some (SortDirection.parse?_eq_some_iff.mp hd)))
  rw [sortDirection, hnone, Option.getD_none]

/-! ### The page -/

theorem toNat_min (a b : UInt64) : (min a b).toNat = min a.toNat b.toNat := by
  rw [show min a b = if a ≤ b then a else b from rfl]
  split
  · next h => rw [Nat.min_eq_left (UInt64.le_iff_toNat_le.mp h)]
  · next h => rw [Nat.min_eq_right]; exact Nat.le_of_not_le fun h' => h (UInt64.le_iff_toNat_le.mpr h')

theorem toNat_ofNat_of_le {i : Int} (h : i ≤ maxInt64) : (UInt64.ofNat i.toNat).toNat = i.toNat := by
  simp only [maxInt64] at h
  exact UInt64.toNat_ofNat_of_lt' (by simp only [UInt64.size]; omega)

/-- The size of a page: the leading integer of its text brought between 1 and the maximum. -/
theorem toNat_pageLimit (raw : Option String) :
    (c.pageLimit raw).toNat =
      match raw.bind leadingInteger? with
      | some i => min (max i 1).toNat c.maxLimit.toNat
      | none => c.defaultLimit.toNat := by
  unfold pageLimit
  cases h : raw.bind leadingInteger? with
  | none => rfl
  | some i =>
    obtain ⟨s, -, hs⟩ := Option.bind_eq_some_iff.mp h
    have hi : max i 1 ≤ maxInt64 := by
      have := (leadingInteger?_mem hs).2
      simp only [maxInt64] at *; omega
    rw [toNat_min, toNat_ofNat_of_le hi]

theorem toNat_pageOffset (raw : Option String) :
    (pageOffset raw).toNat = ((raw.bind leadingInteger?).getD 0).toNat := by
  unfold pageOffset
  cases h : raw.bind leadingInteger? with
  | none => rfl
  | some i =>
    obtain ⟨s, -, hs⟩ := Option.bind_eq_some_iff.mp h
    rw [toNat_ofNat_of_le (leadingInteger?_mem hs).2, Option.getD_some]

theorem maxLimit_pos (c : ListConfig) : 0 < c.maxLimit.toNat :=
  Nat.lt_of_lt_of_le (UInt64.lt_iff_toNat_lt.mp c.limit_pos) (UInt64.le_iff_toNat_le.mp c.limit_le)

theorem pageLimit_pos (raw : Option String) : 0 < (c.pageLimit raw).toNat := by
  have h := c.maxLimit_pos
  rw [toNat_pageLimit]
  split
  · exact Nat.lt_min.mpr ⟨by omega, h⟩
  · exact UInt64.lt_iff_toNat_lt.mp c.limit_pos

theorem pageLimit_le (raw : Option String) : (c.pageLimit raw).toNat ≤ c.maxLimit.toNat := by
  rw [toNat_pageLimit]
  split
  · exact Nat.min_le_right _ _
  · exact UInt64.le_iff_toNat_le.mp c.limit_le

theorem pageOffset_le (raw : Option String) : ((pageOffset raw).toNat : Int) ≤ maxInt64 := by
  rw [toNat_pageOffset]
  cases h : raw.bind leadingInteger? with
  | none => decide
  | some i =>
    obtain ⟨s, -, hs⟩ := Option.bind_eq_some_iff.mp h
    have hi := (leadingInteger?_mem hs).2
    simp only [Option.getD_some, maxInt64] at *; omega

theorem limit_query_pos (c : ListConfig) (params : QueryPairs) : 0 < (c.query params).limit.toNat :=
  pageLimit_pos _

theorem pageOffset_decimal {n : Nat} (h : (n : Int) ≤ maxInt64) :
    pageOffset (some (String.ofList (decimal n))) = UInt64.ofNat n := by
  simp [pageOffset, leadingInteger?_decimal h]

end ListConfig

end Allowlist
