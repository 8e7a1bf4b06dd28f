import Allowlist.Proofs.Listing.Total

/-! # Where a page that is not counted misjudges what follows

Without counting a full page says that more rows follow. This is wrong for one page alone, the one
that ends with the last matching row: it is said to go on and does not. Where the rows cannot be
sorted there is no page to compare, counted or not. -/

namespace Allowlist

def ListOutput.hasMore {Row : Type} : ListOutput Row → Bool
  | rows r => r.hasMore
  | envelope e => e.page.hasMore

theorem Page.hasMore_output {Row : Type} (p : Page Row) (mode : OutputMode) :
    (p.output mode).hasMore = p.hasMore := by
  cases mode <;> rfl

namespace MemoryStore

/-- In front of `left` rows the guess goes on wherever the count does, and at one place more. -/
theorem goesOn_of_counted {limit left : Nat} (h : goesOn true limit left = true) :
    goesOn false limit left = true := by
  simp only [goesOn, if_true, if_false, Bool.false_eq_true, decide_eq_true_eq] at h ⊢
  omega

theorem goesOn_of_eq (left : Nat) :
    goesOn false left left = true ∧ goesOn true left left = false := by
  simp [goesOn]

theorem goesOn_ne_iff {limit left : Nat} :
    goesOn false limit left ≠ goesOn true limit left ↔ limit = left := by
  constructor
  · intro hne
    cases hexact : goesOn true limit left with
    | true =>
      rw [hexact, goesOn_of_counted hexact] at hne
      exact absurd rfl hne
    | false =>
      have hguess : goesOn false limit left = true := by
        rw [hexact] at hne
        exact Bool.of_not_eq_false hne
      exact Nat.le_antisymm (le_of_goesOn hguess) (le_of_not_goesOn hexact)
  · rintro rfl
    obtain ⟨hguess, hexact⟩ := goesOn_of_eq limit
    rw [hguess, hexact]
    exact Bool.noConfusion

/-- A listing without counting beside the one with it, of `n` matching rows: the rows are the same.
What each says of rows behind them differs exactly on the page that ends with the last matching row,
of which the one without counting says that more follow. -/
structure DiffersAtLastRow (q : ListQuery) (n : Nat) (guessed exact : ListOutput Record) : Prop where
  items_eq : guessed.items = exact.items
  guessed_of_exact : exact.hasMore = true → guessed.hasMore = true
  ne_iff : guessed.hasMore ≠ exact.hasMore ↔ q.offset.toNat + q.limit.toNat = n
  at_last : q.offset.toNat + q.limit.toNat = n → guessed.hasMore = true ∧ exact.hasMore = false

theorem differsAtLastRow_pageOf {rows : List Record} {q : ListQuery} (hn : rows.length < wordCount)
    (hlimit : 0 < q.limit.toNat) (mode : OutputMode) :
    DiffersAtLastRow q rows.length ((pageOf rows q false).output mode)
      ((pageOf rows q true).output mode) := by
  have hmore (count : Bool) : ((pageOf rows q count).output mode).hasMore =
      goesOn count q.limit.toNat (rows.length - q.offset.toNat) := by
    rw [Page.hasMore_output, hasMore_pageOf count hn]
  -- a page of no rows at all would end anywhere behind the last row
  have hboundary : q.limit.toNat = rows.length - q.offset.toNat ↔
      q.offset.toNat + q.limit.toNat = rows.length := by
    omega
  refine ⟨?_, ?_, ?_, ?_⟩
  · rw [Page.items_output, Page.items_output, rows_pageOf, rows_pageOf]
  · rw [hmore, hmore]
    exact goesOn_of_counted
  · rw [hmore, hmore, ← hboundary]
    exact goesOn_ne_iff
  · intro hlast
    rw [hmore, hmore, ← hboundary.mpr hlast]
    exact goesOn_of_eq _

/-- The listings with and without counting differ at most in what they say of rows behind the last
matching one, wherever the matching rows can be sorted, which they can if none of them has a double
in the sort column. Where the sort breaks off so do both listings. -/
theorem guess_differs_at_last_full_page {s : MemoryStore} {table : String} {records : List Record}
    (ht : s.table table = .ok records) (hn : records.length < wordCount) (sorter : Sorter Record)
    (c : ListConfig) (input : QueryInput) (base : Option Predicate) (mode : OutputMode) :
    let q := c.queryOf input
    let n := (records.filter (Predicate.holds? (q.filterWith base))).length
    (∀ rows, matching? sorter records q base = some rows → ∃ guessed exact : ListOutput Record,
      (s.dataStore sorter).list table (.raw input c) base false mode = some (.ok guessed) ∧
      (s.dataStore sorter).list table (.raw input c) base true mode = some (.ok exact) ∧
      DiffersAtLastRow q n guessed exact) ∧
    (matching? sorter records q base = none →
      ∀ count, (s.dataStore sorter).list table (.raw input c) base count mode = none) ∧
    ((∀ r ∈ records, q.orderBy.HasNoDouble r) →
      ∃ rows, matching? sorter records q base = some rows) := by
  intro q n
  have hlimit : 0 < q.limit.toNat := ListConfig.limit_query_pos c input.normalize
  refine ⟨fun rows hm => ?_, fun hm count => listOutput_of_matching?_eq_none ht hm count mode,
    fun hdouble => ?_⟩
  · have hfits : rows.length < wordCount := Nat.lt_of_le_of_lt (length_matching?_le hm) hn
    have hlen : rows.length = n := (matching?_perm hm).length_eq
    refine ⟨_, _, listOutput_of_matching? ht hm false mode, listOutput_of_matching? ht hm true mode,
      ?_⟩
    rw [← hlen]
    exact differsAtLastRow_pageOf hfits hlimit mode
  · obtain ⟨rows, hrows, -⟩ := exists_sorted? hdouble sorter (q.filterWith base)
    exact ⟨rows, hrows⟩

/-- Two rows on a page for two: the guess has a third. -/
theorem guess_misjudges_two_items :
    twoItems.table "items" = .ok [numbered 2, numbered 1] ∧
      ∃ guessed exact : ListOutput Record,
        (twoItems.dataStore .insertion).list "items" (.raw (.pairs ∅) twoAPage) none false .rows =
          some (.ok guessed) ∧
        (twoItems.dataStore .insertion).list "items" (.raw (.pairs ∅) twoAPage) none true .rows =
          some (.ok exact) ∧
        guessed.items = exact.items ∧ guessed.hasMore = true ∧ exact.hasMore = false := by
  have ht : twoItems.table "items" = .ok [numbered 2, numbered 1] := rfl
  obtain ⟨hanswers, -, -⟩ :=
    guess_differs_at_last_full_page ht (by decide) .insertion twoAPage (.pairs ∅) none .rows
  obtain ⟨guessed, exact, hguessed, hexact, hdiffers⟩ :=
    hanswers [numbered 1, numbered 2] (by decide +kernel)
  exact ⟨ht, guessed, exact, hguessed, hexact, hdiffers.items_eq, hdiffers.at_last rfl⟩

/-- Of rows that cannot be sorted neither listing is got. -/
theorem not_forall_differsAtLastRow :
    ¬ ∀ (sorter : Sorter Record) (s : MemoryStore) (table : String) (records : List Record)
      (c : ListConfig) (input : QueryInput) (base : Option Predicate) (mode : OutputMode),
      s.table table = .ok records → records.length < wordCount →
        ∃ guessed exact : ListOutput Record,
          (s.dataStore sorter).list table (.raw input c) base false mode = some (.ok guessed) ∧
          (s.dataStore sorter).list table (.raw input c) base true mode = some (.ok exact) ∧
          DiffersAtLastRow (c.queryOf input)
            (records.filter (Predicate.holds? ((c.queryOf input).filterWith base))).length guessed
            exact := by
  intro h
  have ht : blurredItems.table "items" = .ok blurredRows := rfl
  obtain ⟨guessed, -, hguessed, -⟩ := h .insertion blurredItems "items" blurredRows twoAPage
    (.pairs ∅) none .rows ht (by decide)
  have hbreaks : (blurredItems.dataStore .insertion).list "items" (.raw (.pairs ∅) twoAPage) none
      false .rows = none := listOutput_of_matching?_eq_none ht matching?_blurredRows false .rows
  cases hbreaks.symm.trans hguessed

end MemoryStore

end Allowlist
