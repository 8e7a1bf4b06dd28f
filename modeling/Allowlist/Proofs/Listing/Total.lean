import Allowlist.Proofs.Listing.Walk

/-! # Totals that are not counted

Without counting the total of a page is the number of rows up to its end, as if all rows in front
of it were there. It is therefore at most the number of matching rows exactly as long as the page
does not start behind them; behind them it is the offset that was asked for. -/

namespace Allowlist

def Page.output {Row : Type} (p : Page Row) : OutputMode → ListOutput Row
  | .rows => .rows p.toRows
  | .envelope => .envelope p.toEnvelope

def ListOutput.total {Row : Type} : ListOutput Row → UInt64
  | rows r => r.total
  | envelope e => e.page.total

def ListOutput.items {Row : Type} : ListOutput Row → List Row
  | rows r => r.rows
  | envelope e => e.data

theorem Page.items_output {Row : Type} (p : Page Row) (mode : OutputMode) :
    (p.output mode).items = p.rows := by
  cases mode <;> rfl

theorem Page.total_output {Row : Type} (p : Page Row) (mode : OutputMode) :
    (p.output mode).total = p.total := by
  cases mode <;> rfl

namespace MemoryStore

theorem listOutput_dataStore (s : MemoryStore) (sorter : Sorter Record) (table : String)
    (source : ListSource) (base : Option Predicate) (count : Bool) (mode : OutputMode) :
    (s.dataStore sorter).list table source base count mode =
      s.ofTable table fun records =>
        (matching? sorter records source.resolve base).map fun rows =>
          (pageOf rows source.resolve count).output mode := by
  cases mode <;>
    simp only [DataStore.list, DataStore.listRows, DataStore.listEnvelope, fetchPage_dataStore,
      map_ofTable, Option.map_map] <;>
    rfl

section
variable {s : MemoryStore} {sorter : Sorter Record} {table : String} {records rows : List Record}
  {source : ListSource} {base : Option Predicate}

theorem listOutput_of_matching? (ht : s.table table = .ok records)
    (hm : matching? sorter records source.resolve base = some rows) (count : Bool)
    (mode : OutputMode) :
    (s.dataStore sorter).list table source base count mode =
      some (.ok ((pageOf rows source.resolve count).output mode)) := by
  simp only [listOutput_dataStore, ofTable_ok ht, hm]
  rfl

theorem listOutput_of_matching?_eq_none (ht : s.table table = .ok records)
    (hm : matching? sorter records source.resolve base = none) (count : Bool) (mode : OutputMode) :
    (s.dataStore sorter).list table source base count mode = none := by
  simp only [listOutput_dataStore, ofTable_ok ht, hm]
  rfl

end

section
variable {rows : List Record} {q : ListQuery}

theorem toNat_total_counted (hn : rows.length < wordCount) :
    (pageOf rows q true).total.toNat = rows.length :=
  UInt64.toNat_ofNat_of_lt' hn

/-- The total without counting reaches to the end of the page, or to its start behind all rows. -/
theorem toNat_total_uncounted (hn : rows.length < wordCount) :
    (pageOf rows q false).total.toNat =
      max q.offset.toNat (min (q.offset.toNat + q.limit.toNat) rows.length) := by
  have hlen := length_pageRows rows q
  have hadv : (pageOf rows q false).total.toNat =
      q.offset.toNat + (pageRows rows q).length := toNat_advance_pageRows hn
  omega

end

/-- The total of a listing that is not counted is a lower bound of the one that is counted exactly
where the page asked for does not start behind the last matching row. Both listings answer, unless
the sort breaks off and with it both of them. -/
theorem guessed_total_le_iff {s : MemoryStore} {table : String} {records : List Record}
    (ht : s.table table = .ok records) (hn : records.length < wordCount) (sorter : Sorter Record)
    (source : ListSource) (base : Option Predicate) (mode : OutputMode) :
    (∃ guessed exact : ListOutput Record,
      (s.dataStore sorter).list table source base false mode = some (.ok guessed) ∧
      (s.dataStore sorter).list table source base true mode = some (.ok exact) ∧
      exact.total.toNat =
        (records.filter (Predicate.holds? (source.resolve.filterWith base))).length ∧
      guessed.total.toNat = max source.resolve.offset.toNat
        (min (source.resolve.offset.toNat + source.resolve.limit.toNat) exact.total.toNat) ∧
      (guessed.total ≤ exact.total ↔ source.resolve.offset.toNat ≤ exact.total.toNat)) ∨
    (matching? sorter records source.resolve base = none ∧
      ∀ count, (s.dataStore sorter).list table source base count mode = none) := by
  cases hm : matching? sorter records source.resolve base with
  | none => exact .inr ⟨rfl, fun count => listOutput_of_matching?_eq_none ht hm count mode⟩
  | some rows =>
    have hmatching : rows.length < wordCount := Nat.lt_of_le_of_lt (length_matching?_le hm) hn
    have hcounted := toNat_total_counted (q := source.resolve) hmatching
    have hguessed := toNat_total_uncounted (q := source.resolve) hmatching
    refine .inl ⟨_, _, listOutput_of_matching? ht hm false mode,
      listOutput_of_matching? ht hm true mode, ?_, ?_, ?_⟩
    · rw [Page.total_output, hcounted, (matching?_perm hm).length_eq]
    · rw [Page.total_output, Page.total_output, hguessed, hcounted]
    · rw [Page.total_output, Page.total_output, UInt64.le_iff_toNat_le, hguessed, hcounted]
      omega

/-- On the second of two pages of one row the bound holds without counting. -/
theorem guessed_total_of_two_items :
    let source : ListSource := .raw (.pairs (.ofList [("limit", "1"), ("offset", "1")])) twoAPage
    twoItems.table "items" = .ok [numbered 2, numbered 1] ∧
      ∃ guessed exact : ListOutput Record,
        (twoItems.dataStore .insertion).list "items" source none false .rows = some (.ok guessed) ∧
        (twoItems.dataStore .insertion).list "items" source none true .rows = some (.ok exact) ∧
        exact.total.toNat = 2 ∧ guessed.total ≤ exact.total := by
  intro source
  have ht : twoItems.table "items" = .ok [numbered 2, numbered 1] := rfl
  rcases guessed_total_le_iff ht (by decide) .insertion source none .rows with hanswers | ⟨hm, -⟩
  · obtain ⟨guessed, exact, hguessed, hexact, htotal, -, hiff⟩ := hanswers
    have htwo : exact.total.toNat = 2 := htotal.trans rfl
    have hoffset : source.resolve.offset.toNat ≤ exact.total.toNat := by rw [htwo]; decide
    exact ⟨ht, guessed, exact, hguessed, hexact, htwo, hiff.mpr hoffset⟩
  · exact absurd hm (by decide +kernel)

def noItems : MemoryStore := ⟨.ofList [("items", [])]⟩

/-- A page that starts behind all rows tells a total that is too large: of no rows, five. -/
theorem guessed_total_not_le :
    ¬ ∀ (sorter : Sorter Record) (s : MemoryStore) (table : String) (c : ListConfig)
      (params : QueryPairs) (base : Option Predicate) (guessed exact : ListOutput Record),
      (s.dataStore sorter).list table (.raw (.pairs params) c) base false .rows =
        some (.ok guessed) →
      (s.dataStore sorter).list table (.raw (.pairs params) c) base true .rows =
        some (.ok exact) →
        guessed.total ≤ exact.total := by
  intro h
  have hguessed : (noItems.dataStore .insertion).list "items"
      (.raw (.pairs (.ofList [("offset", "5")])) twoAPage) none false .rows =
        some (.ok (.rows ⟨[], 5, false⟩)) := rfl
  have hexact : (noItems.dataStore .insertion).list "items"
      (.raw (.pairs (.ofList [("offset", "5")])) twoAPage) none true .rows =
        some (.ok (.rows ⟨[], 0, false⟩)) := rfl
  exact absurd (h _ _ _ _ _ _ _ _ hguessed hexact) (by decide)

end MemoryStore

end Allowlist
