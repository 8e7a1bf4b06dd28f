import Allowlist.Proofs.Listing.Memory
import Allowlist.Proofs.Listing.Query

/-! # Walking through the pages

A client asks for a page and goes on at the next offset as long as more rows are said to follow. In
front of `m` rows that are left a page takes `min limit m` of them; with counting the walk goes on
while `limit < m`, without it while `limit ≤ m`. So nothing is skipped or seen twice, and only the
walk without counting can end in a page that is empty. All of this rests on the order of the rows:
where doubles make it no order at all, the sort may break off, and then there is no page. -/

namespace Allowlist

open Text

/-- The parameters that ask for the page at an offset, written behind those given. -/
def QueryPairs.atOffset (params : QueryPairs) (offset : UInt64) : QueryPairs :=
  params.push offsetParam (String.ofList (decimal offset.toNat))

namespace MemoryStore

/-- The pages that a client gets who starts with some parameters and asks for the page at the next
offset as long as there is one, nothing being written meanwhile. -/
inductive Walk (s : MemoryStore) (sorter : Sorter Record) (table : String) (c : ListConfig)
    (base : Option Predicate) (count : Bool) : QueryPairs → List (ListEnvelope Record) → Prop
  | last {params : QueryPairs} {page : ListEnvelope Record}
      (asked : (s.dataStore sorter).listEnvelope table (.raw (.pairs params) c) base count =
        some (.ok page))
      (ended : page.page.hasMore = false) : Walk s sorter table c base count params [page]
  | next {params : QueryPairs} {page : ListEnvelope Record} {offset : UInt64}
      {pages : List (ListEnvelope Record)}
      (asked : (s.dataStore sorter).listEnvelope table (.raw (.pairs params) c) base count =
        some (.ok page))
      (more : page.page.hasMore = true) (follows : page.page.nextOffset = some offset)
      (rest : Walk s sorter table c base count (params.atOffset offset) pages) :
      Walk s sorter table c base count params (page :: pages)

/-- The pages of `limit` rows each give all of the rows, out of `total`. -/
structure Covers (rows : List Record) (limit total : Nat) (count : Bool)
    (pages : List (ListEnvelope Record)) : Prop where
  data : pages.flatMap (·.data) = rows
  total_counted : count = true → ∀ page ∈ pages, page.page.total.toNat = total
  length_counted : count = true → pages.length = max 1 ((rows.length + limit - 1) / limit)
  length_uncounted : count = false → pages.length = rows.length / limit + 1
  last_uncounted : count = false → ∀ page ∈ pages.getLast?, page.data.length = rows.length % limit

/-- Whether a page of at most `limit` rows is followed by another when `left` rows are left. -/
def goesOn (count : Bool) (limit left : Nat) : Bool :=
  if count then limit < left else limit ≤ left

theorem le_of_goesOn {count : Bool} {limit left : Nat} (h : goesOn count limit left = true) :
    limit ≤ left := by
  cases count <;> simp only [goesOn, if_true, if_false, Bool.false_eq_true, decide_eq_true_eq] at h <;>
    omega

theorem le_of_not_goesOn {count : Bool} {limit left : Nat} (h : goesOn count limit left = false) :
    left ≤ limit := by
  cases count <;> simp only [goesOn, if_true, if_false, Bool.false_eq_true, decide_eq_false_iff_not] at h <;>
    omega

namespace Covers
variable {rows : List Record} {limit total : Nat} {count : Bool} {page : ListEnvelope Record}
  {pages : List (ListEnvelope Record)}

theorem last (hl : 0 < limit) (hd : page.data = rows.take limit)
    (ht : count = true → page.page.total.toNat = total)
    (hm : goesOn count limit rows.length = false) : Covers rows limit total count [page] := by
  have hle := le_of_not_goesOn hm
  have hd' : page.data = rows := by rw [hd, List.take_of_length_le hle]
  refine ⟨by simp [hd'], by simpa using ht, ?_, ?_, ?_⟩
  · intro _
    have : (rows.length + limit - 1) / limit ≤ 1 :=
      Nat.le_of_lt_succ ((Nat.div_lt_iff_lt_mul hl).mpr (by omega))
    simp only [List.length_singleton]; omega
  · rintro rfl
    have hlt : rows.length < limit := by simpa [goesOn] using hm
    rw [Nat.div_eq_of_lt hlt]; rfl
  · rintro rfl
    have hlt : rows.length < limit := by simpa [goesOn] using hm
    simp [hd', Nat.mod_eq_of_lt hlt]

theorem cons (hl : 0 < limit) (hd : page.data = rows.take limit)
    (ht : count = true → page.page.total.toNat = total)
    (hm : goesOn count limit rows.length = true)
    (h : Covers (rows.drop limit) limit total count pages) :
    Covers rows limit total count (page :: pages) := by
  have hle := le_of_goesOn hm
  have hlen : (rows.drop limit).length = rows.length - limit := List.length_drop
  refine ⟨?_, ?_, ?_, ?_, ?_⟩
  · rw [List.flatMap_cons, h.data, hd, List.take_append_drop]
  · intro hc e he
    rcases List.mem_cons.mp he with rfl | he
    · exact ht hc
    · exact h.total_counted hc e he
  · rintro rfl
    have hlt : limit < rows.length := by simpa [goesOn] using hm
    rw [List.length_cons, h.length_counted rfl, hlen]
    have hdiv : (rows.length + limit - 1) / limit = (rows.length - limit + limit - 1) / limit + 1 := by
      rw [show rows.length + limit - 1 = rows.length - limit + limit - 1 + limit by omega,
        Nat.add_div_right _ hl]
    have hpos : 1 ≤ (rows.length - limit + limit - 1) / limit :=
      (Nat.one_le_div_iff hl).mpr (by omega)
    omega
  · intro hc
    rw [List.length_cons, h.length_uncounted hc, hlen, ← Nat.div_eq_sub_div hl hle]
  · intro hc e he
    have hne : pages ≠ [] := by
      rintro rfl
      have := h.length_uncounted hc
      simp at this
    rw [List.getLast?_cons_of_ne_nil hne] at he
    rw [h.last_uncounted hc e he, hlen, ← Nat.mod_eq_sub_mod hle]

/-- Without counting there is at most one page more than needed, and that one is empty. -/
theorem extra_page (hl : 0 < limit) (h : Covers rows limit total false pages) :
    pages.length ≤ max 1 ((rows.length + limit - 1) / limit) + 1 ∧
      (pages.length ≠ max 1 ((rows.length + limit - 1) / limit) →
        ∀ page ∈ pages.getLast?, page.data = []) := by
  have hlen := h.length_uncounted rfl
  have hdm := Nat.div_add_mod rows.length limit
  have hmod := Nat.mod_lt rows.length hl
  -- the needed pages are the full ones and one for what is left over, if anything is
  rcases Nat.eq_zero_or_pos (rows.length % limit) with h0 | hpos
  · refine ⟨?_, fun _ page hp => ?_⟩
    · have : rows.length / limit ≤ (rows.length + limit - 1) / limit :=
        Nat.div_le_div_right (by omega)
      omega
    · exact List.eq_nil_of_length_eq_zero ((h.last_uncounted rfl page hp).trans h0)
  · have hceil : (rows.length + limit - 1) / limit = rows.length / limit + 1 := by
      rw [show rows.length + limit - 1 = rows.length % limit - 1 + limit * (rows.length / limit + 1) by
          rw [Nat.mul_add]; omega,
        Nat.add_mul_div_left _ _ hl, Nat.div_eq_of_lt (by omega), Nat.zero_add]
    have hfit : pages.length = max 1 ((rows.length + limit - 1) / limit) := by
      rw [hlen, hceil, Nat.max_eq_right (Nat.le_add_left 1 _)]
    exact ⟨by omega, fun hne => absurd hfit hne⟩

end Covers

/-! ### One page -/

theorem toNat_advance_eq_min (offset : UInt64) (rows : Nat) :
    (advance offset rows).toNat = min (offset.toNat + rows) (wordCount - 1) :=
  UInt64.toNat_ofNat_of_lt' (by simp only [wordCount, UInt64.size]; omega)

theorem toNat_advance {offset : UInt64} {rows : Nat} (h : offset.toNat + rows < wordCount) :
    (advance offset rows).toNat = offset.toNat + rows := by
  rw [toNat_advance_eq_min, Nat.min_eq_left (Nat.le_sub_one_of_lt h)]

section
variable {rows : List Record} {q : ListQuery}

theorem length_pageRows (rows : List Record) (q : ListQuery) :
    (pageRows rows q).length = min q.limit.toNat (rows.length - q.offset.toNat) := by
  simp [pageRows]

theorem toNat_advance_pageRows (hn : rows.length < wordCount) :
    (advance q.offset (pageRows rows q).length).toNat =
      q.offset.toNat + (pageRows rows q).length := by
  have hlen := length_pageRows rows q
  have hoffset : q.offset.toNat < wordCount := q.offset.toNat_lt
  -- the page ends within the matching rows or, being empty, at the offset: no overflow either way
  have hfits : q.offset.toNat + (pageRows rows q).length < wordCount := by omega
  exact toNat_advance hfits

/-- What a page says of others behind it depends on the rows left from its start on, of which there
are none behind the last row. -/
theorem hasMore_pageOf (count : Bool) (hn : rows.length < wordCount) :
    (pageOf rows q count).hasMore =
      goesOn count q.limit.toNat (rows.length - q.offset.toNat) := by
  have hlen := length_pageRows rows q
  cases count with
  | false =>
    simp only [pageOf, Page.uncounted, goesOn, if_false, Bool.false_eq_true, decide_eq_decide]
    omega
  | true =>
    have htotal : (UInt64.ofNat rows.length).toNat = rows.length := UInt64.toNat_ofNat_of_lt' hn
    simp only [pageOf, Page.counted, goesOn, if_true, UInt64.lt_iff_toNat_lt,
      toNat_advance_pageRows hn, htotal, decide_eq_decide]
    omega

/-- A page within the rows says so when others follow, and where they start. -/
theorem toEnvelope_pageOf (count : Bool) (hn : rows.length < twoPow 63)
    (ho : q.offset.toNat ≤ rows.length) :
    let page := (pageOf rows q count).toEnvelope
    let left := rows.drop q.offset.toNat
    page.data = left.take q.limit.toNat ∧
      (count = true → page.page.total.toNat = rows.length) ∧
      page.page.hasMore = goesOn count q.limit.toNat left.length ∧
      (goesOn count q.limit.toNat left.length = true → ∃ offset,
        page.page.nextOffset = some offset ∧ offset.toNat = q.offset.toNat + q.limit.toNat) := by
  have hword : rows.length < wordCount := Nat.lt_trans hn (by decide)
  have hadv := toNat_advance_pageRows (q := q) hword
  have hlen := length_pageRows rows q
  have hmore : (pageOf rows q count).hasMore =
      goesOn count q.limit.toNat (rows.drop q.offset.toNat).length := by
    rw [List.length_drop]
    exact hasMore_pageOf count hword
  refine ⟨by cases count <;> rfl, ?_, hmore, ?_⟩
  · rintro rfl; exact UInt64.toNat_ofNat_of_lt' hword
  · intro hg
    have hle := le_of_goesOn hg
    have hfull : (pageRows rows q).length = q.limit.toNat := by
      rw [List.length_drop] at hle; omega
    have hnext : (pageOf rows q count).toEnvelope.page.nextOffset =
        some (advance q.offset (pageRows rows q).length) := by
      show (if (pageOf rows q count).hasMore then _ else _) = _
      rw [hmore, hg]; cases count <;> rfl
    exact ⟨_, hnext, by rw [hadv, hfull]⟩

end

/-! ### The walk -/

theorem query_atOffset {offset : UInt64} (h : (offset.toNat : Int) ≤ maxInt64) (c : ListConfig)
    (params : QueryPairs) :
    c.query (params.atOffset offset) = { c.query params with offset := offset } := by
  rw [QueryPairs.atOffset, ListConfig.query_push_offset, ListConfig.pageOffset_decimal h,
    UInt64.ofNat_toNat]

/-- The walk is the only one from its start. Its pages give, in order, what one selection without a
limit gives, the matching rows; with counting each of them tells the number of rows, and without it
there is at most one page too many, which is empty. -/
structure CompleteWalk (s : MemoryStore) (sorter : Sorter Record) (table : String)
    (records : List Record) (c : ListConfig) (params : QueryPairs) (base : Option Predicate)
    (count : Bool) (pages : List (ListEnvelope Record)) (rows : List Record) : Prop where
  walk : Walk s sorter table c base count params pages
  unique : ∀ other, Walk s sorter table c base count params other → other = pages
  selected : ∀ limit : UInt64, records.length ≤ limit.toNat →
    s.select sorter table ⟨(c.query params).filterWith base, (c.query params).orderBy, limit, 0⟩ =
      some (.ok rows)
  perm : rows.Perm (records.filter (Predicate.holds? ((c.query params).filterWith base)))
  data : pages.flatMap (·.data) = rows
  counted : count = true → (∀ page ∈ pages, page.page.total.toNat = rows.length) ∧
    pages.length = max 1 ((rows.length + (c.query params).limit.toNat - 1) /
      (c.query params).limit.toNat)
  uncounted : count = false → pages.length = rows.length / (c.query params).limit.toNat + 1 ∧
    pages.length ≤ max 1 ((rows.length + (c.query params).limit.toNat - 1) /
      (c.query params).limit.toNat) + 1 ∧
    (pages.length ≠ max 1 ((rows.length + (c.query params).limit.toNat - 1) /
      (c.query params).limit.toNat) → ∀ page ∈ pages.getLast?, page.data = [])

section
variable {s : MemoryStore} {sorter : Sorter Record} {table : String} {c : ListConfig}
  {base : Option Predicate} {count : Bool} {params : QueryPairs} {records rows : List Record}
  {pages other : List (ListEnvelope Record)}

theorem Walk.unique (h : Walk s sorter table c base count params pages)
    (h' : Walk s sorter table c base count params other) : other = pages := by
  induction h generalizing other with
  | last asked ended =>
    cases h' with
    | last asked' _ => cases asked.symm.trans asked'; rfl
    | next asked' more _ _ =>
      cases asked.symm.trans asked'; rw [ended] at more; cases more
  | next asked more follows _ ih =>
    cases h' with
    | last asked' ended =>
      cases asked.symm.trans asked'; rw [ended] at more; cases more
    | next asked' _ follows' rest' =>
      cases asked.symm.trans asked'
      cases follows.symm.trans follows'
      rw [ih rest']

theorem listEnvelope_of_matching? (ht : s.table table = .ok records)
    (hm : matching? sorter records (c.query params) base = some rows) (count : Bool) :
    (s.dataStore sorter).listEnvelope table (.raw (.pairs params) c) base count =
      some (.ok (pageOf rows (c.query params) count).toEnvelope) := by
  rw [listEnvelope_dataStore, ofTable_ok ht]
  show ((matching? sorter records (c.query params) base).map _).map _ = _
  rw [hm]
  rfl

/-- Where the sort breaks off there is not even a first page. -/
theorem not_walk_of_matching?_eq_none (ht : s.table table = .ok records)
    (hm : matching? sorter records (c.query params) base = none) :
    ¬ Walk s sorter table c base count params pages := by
  have hbreaks : (s.dataStore sorter).listEnvelope table (.raw (.pairs params) c) base count =
      none := by
    rw [listEnvelope_dataStore, ofTable_ok ht]
    show ((matching? sorter records (c.query params) base).map _).map _ = _
    rw [hm]
    rfl
  intro h
  cases h with
  | last asked _ => cases hbreaks.symm.trans asked
  | next asked _ _ _ => cases hbreaks.symm.trans asked

/-- From any offset within the rows the walk ends and gives what stands behind that offset. -/
theorem exists_walk (ht : s.table table = .ok records) (hn : rows.length < twoPow 63)
    (hm : matching? sorter records (c.query params) base = some rows)
    (ho : (c.query params).offset.toNat ≤ rows.length) (count : Bool) :
    ∃ pages, Walk s sorter table c base count params pages ∧
      Covers (rows.drop (c.query params).offset.toNat) (c.query params).limit.toNat rows.length
        count pages := by
  -- the induction is on the number of rows behind the offset
  induction hk : rows.length - (c.query params).offset.toNat
    using Nat.strongRecOn generalizing params with
  | _ k ih =>
    have hl := ListConfig.limit_query_pos c params
    obtain ⟨hd, htotal, hmore, hnext⟩ := toEnvelope_pageOf count hn ho
    have asked := listEnvelope_of_matching? ht hm count
    cases hg : goesOn count (c.query params).limit.toNat
        (rows.drop (c.query params).offset.toNat).length with
    | false => exact ⟨_, .last asked (hmore.trans hg), .last hl hd htotal hg⟩
    | true =>
      have hleft := le_of_goesOn hg
      rw [List.length_drop] at hleft
      obtain ⟨offset, hoffset, hsum⟩ := hnext hg
      have hmax : (offset.toNat : Int) ≤ maxInt64 := by
        have h63 : twoPow 63 = 9223372036854775808 := rfl
        simp only [maxInt64]; omega
      have hq := query_atOffset hmax c params
      have hm' : matching? sorter records (c.query (params.atOffset offset)) base = some rows := by
        rw [hq]; exact hm
      have ho' : (c.query (params.atOffset offset)).offset.toNat ≤ rows.length := by
        rw [hq, hsum]; omega
      obtain ⟨pages, hw, hc⟩ := ih _ (by rw [hq, hsum]; omega) hm' ho' rfl
      refine ⟨_, .next asked (hmore.trans hg) hoffset hw, .cons hl hd htotal hg ?_⟩
      rwa [hq, hsum, ← List.drop_drop] at hc

theorem exists_completeWalk (ht : s.table table = .ok records) (hn : records.length < twoPow 63)
    (h0 : (c.query params).offset = 0)
    (hm : matching? sorter records (c.query params) base = some rows) :
    ∃ pages, CompleteWalk s sorter table records c params base count pages rows := by
  have hrows : rows.length < twoPow 63 := Nat.lt_of_le_of_lt (length_matching?_le hm) hn
  have hstart : (c.query params).offset.toNat ≤ rows.length := by rw [h0]; exact Nat.zero_le _
  obtain ⟨pages, hw, hc⟩ := exists_walk ht hrows hm hstart count
  rw [h0] at hc
  refine ⟨pages, hw, fun _ h => hw.unique h, fun limit hlimit => ?_, matching?_perm hm, hc.data,
    fun h => ⟨hc.total_counted h, hc.length_counted h⟩, ?_⟩
  · have hle := Nat.le_trans (length_matching?_le hm) hlimit
    rw [select_eq, ofTable_ok ht]
    show ((matching? sorter records (c.query params) base).map _).map _ = _
    rw [hm]
    exact congrArg (fun rows => some (Except.ok rows)) (List.take_of_length_le hle)
  · rintro rfl
    exact ⟨hc.length_uncounted rfl, hc.extra_page (ListConfig.limit_query_pos c params)⟩

/-- A walk from the first row ends and is complete wherever the matching rows can be sorted, which
they can if none of them has a double in the sort column. Where the sort breaks off there is no
walk. -/
theorem walk_complete (ht : s.table table = .ok records) (hn : records.length < twoPow 63)
    (h0 : (c.query params).offset = 0) (sorter : Sorter Record) (base : Option Predicate)
    (count : Bool) :
    (∀ rows, matching? sorter records (c.query params) base = some rows →
      ∃ pages, CompleteWalk s sorter table records c params base count pages rows) ∧
    (matching? sorter records (c.query params) base = none →
      ∀ pages, ¬ Walk s sorter table c base count params pages) ∧
    ((∀ r ∈ records, (c.query params).orderBy.HasNoDouble r) →
      ∃ rows, matching? sorter records (c.query params) base = some rows) := by
  refine ⟨fun rows hm => exists_completeWalk ht hn h0 hm,
    fun hm pages => not_walk_of_matching?_eq_none ht hm, fun hdouble => ?_⟩
  obtain ⟨rows, hrows, -⟩ := exists_sorted? hdouble sorter ((c.query params).filterWith base)
  exact ⟨rows, hrows⟩

end

/-- Two rows a page, by their number. -/
def twoAPage : ListConfig where
  filters := ∅
  customFilters := ∅
  sortable := .ofList [("number", "number")]
  defaultSort := ⟨"number", .asc⟩
  defaultSortColumn := "number"
  defaultLimit := 2
  maxLimit := 2
  sort_declared := by rfl
  limit_pos := by decide
  limit_le := by decide

def numbered (i : Int64) : Record := .ofList [("number", .integer i)]

/-- A table of exactly one page. -/
def twoItems : MemoryStore := ⟨.ofList [("items", [numbered 2, numbered 1])]⟩

theorem walk_two_items :
    twoItems.table "items" = .ok [numbered 2, numbered 1] ∧
      ∃ pages, Walk twoItems .insertion "items" twoAPage none false ∅ pages ∧ pages.length = 2 ∧
        pages.flatMap (·.data) = [numbered 1, numbered 2] ∧
        ∀ page ∈ pages.getLast?, page.data = [] := by
  have ht : twoItems.table "items" = .ok [numbered 2, numbered 1] := by rfl
  obtain ⟨hwalk, -, -⟩ := walk_complete ht (by decide)
    (show (twoAPage.query ∅).offset = 0 by rfl) .insertion none false
  obtain ⟨pages, h⟩ := hwalk [numbered 1, numbered 2] (by decide +kernel)
  obtain ⟨hlen, -, hextra⟩ := h.uncounted rfl
  exact ⟨ht, pages, h.walk, hlen, h.data, hextra (by rw [hlen]; decide)⟩

/-- Three numbers of which the double `2 ^ 53` ties with the integer one above it and with itself as
an integer, eight times over. -/
def blurredRows : List Record :=
  (List.replicate 8 [.float ⟨0x4340000000000000⟩, .integer 9007199254740993,
    .integer 9007199254740992]).flatten.map fun number => .ofList [("number", number)]

def blurredItems : MemoryStore := ⟨.ofList [("items", blurredRows)]⟩

theorem matching?_blurredRows :
    matching? .insertion blurredRows (twoAPage.query ∅) none = none := by
  decide +kernel

/-- Rows that cannot be sorted cannot be walked through. -/
theorem not_forall_completeWalk :
    ¬ ∀ (sorter : Sorter Record) (s : MemoryStore) (table : String) (records : List Record)
      (c : ListConfig) (params : QueryPairs) (base : Option Predicate) (count : Bool),
      s.table table = .ok records → records.length < twoPow 63 → (c.query params).offset = 0 →
        ∃ pages rows, CompleteWalk s sorter table records c params base count pages rows := by
  intro h
  have ht : blurredItems.table "items" = .ok blurredRows := rfl
  obtain ⟨pages, rows, hwalk⟩ := h .insertion blurredItems "items" blurredRows twoAPage ∅ none true
    ht (by decide) rfl
  exact not_walk_of_matching?_eq_none ht matching?_blurredRows hwalk.walk

end MemoryStore

end Allowlist
