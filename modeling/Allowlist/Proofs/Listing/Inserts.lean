import Allowlist.Proofs.Listing.Walk
import Allowlist.Proofs.Store.RecordOrder
import Allowlist.Proofs.Store.Writes
import Mathlib.Data.List.Perm.Subperm
import Mathlib.Logic.Relation

/-! # Paging while rows come in

A client walks through the pages while others write. A row that comes in pushes others back in the
order but never forward, so what stands behind an offset still stands behind it afterwards. The rows
that matched at the start are therefore always among those seen and those behind the next offset,
and once no more rows are said to follow there are none behind it. Rows that are pushed over the
offset are seen again. -/

namespace Allowlist.MemoryStore

/-- A walk under way: the store as it is and the pages got so far, the last one first. -/
structure Visit where
  store : MemoryStore
  pages : List (ListEnvelope Record)

namespace Visit

/-- The offset to go on at: the first row to begin with, then what the last page says. -/
def next? (v : Visit) : Option UInt64 :=
  match v.pages with
  | [] => some 0
  | page :: _ => page.page.nextOffset

def seen (v : Visit) : List Record := v.pages.flatMap (·.data)

/-- One step of a walk through the rows of a query: someone writes, or the client gets the page at
the next offset, in whichever form it asks for it. -/
inductive Step (sorter : Sorter Record) (table : String) (q : ListQuery) (base : Option Predicate)
    (count : Bool) : Visit → Visit → Prop
  | write (v : Visit) (w : Write) :
      Step sorter table q base count v { v with store := w.apply v.store }
  | request {v : Visit} {offset : UInt64} {source : ListSource} {page : ListEnvelope Record}
      (follows : v.next? = some offset) (asks : source.resolve = { q with offset := offset })
      (answer : (v.store.dataStore sorter).listEnvelope table source base count =
        some (.ok page)) :
      Step sorter table q base count v { v with pages := page :: v.pages }

end Visit

/-- The rows from an offset on, none where there is no offset. -/
def behind (rows : List Record) : Option UInt64 → List Record
  | some offset => rows.drop offset.toNat
  | none => []

/-- The matching rows that the walk still has in front of it. -/
def Visit.unseen (v : Visit) (sorter : Sorter Record) (table : String) (q : ListQuery)
    (base : Option Predicate) : List Record :=
  behind ((matching? sorter (v.store.records table) q base).getD []) v.next?

/-! ### A row comes in -/

section
variable {sorter : Sorter Record} {q : ListQuery} {base : Option Predicate}
  {records rows rows' : List Record} {r : Record}

theorem exists_matching? (sorter : Sorter Record) (base : Option Predicate)
    (hdouble : ∀ s ∈ records, q.orderBy.HasNoDouble s) :
    ∃ rows, matching? sorter records q base = some rows ∧
      IsStableSort q.orderBy.compareRecords
        (records.filter (Predicate.holds? (q.filterWith base))) rows :=
  exists_sorted? hdouble sorter (q.filterWith base)

theorem matching?_sublist_concat (hdouble : ∀ s ∈ records ++ [r], q.orderBy.HasNoDouble s) :
    ((matching? sorter records q base).getD []).Sublist
      ((matching? sorter (records ++ [r]) q base).getD []) := by
  have hold : ∀ s ∈ records, q.orderBy.HasNoDouble s :=
    fun s hs => hdouble s (List.mem_append_left _ hs)
  have hnew : q.orderBy.HasNoDouble r := hdouble r (List.mem_append_right _ List.mem_cons_self)
  obtain ⟨rows, hrows, hsort⟩ := exists_matching? sorter base hold
  obtain ⟨rows', hrows', hsort'⟩ := exists_matching? sorter base hdouble
  rw [hrows, hrows']
  show rows.Sublist rows'
  have hpre := q.orderBy.preorders_compareRecords
  have hmatching : ∀ s ∈ records.filter (Predicate.holds? (q.filterWith base)),
      q.orderBy.HasNoDouble s := fun s hs => hold s (List.mem_filter.mp hs).1
  rw [List.filter_append] at hsort'
  by_cases hr : Predicate.holds? (q.filterWith base) r = true
  · rw [List.filter_cons_of_pos hr, List.filter_nil] at hsort'
    exact hsort.sublist_concat hpre hmatching hnew hsort'
  · rw [List.filter_cons_of_neg hr, List.filter_nil, List.append_nil] at hsort'
    rw [hsort.unique hpre hmatching hsort']

/-! ### A page is got -/

theorem toNat_advance_le (offset : UInt64) (n : Nat) :
    (advance offset n).toNat ≤ offset.toNat + n := by
  rw [toNat_advance_eq_min]
  exact Nat.min_le_left _ _

theorem drop_eq_pageRows_append (rows : List Record) (q : ListQuery) :
    rows.drop q.offset.toNat = pageRows rows q ++
      rows.drop (q.offset.toNat + (pageRows rows q).length) := by
  have hprefix := List.take_prefix q.limit.toNat (rows.drop q.offset.toNat)
  have hsplit := List.prefix_iff_eq_append.mp hprefix
  rw [List.drop_drop] at hsplit
  exact hsplit.symm

theorem length_le_of_not_hasMore {count : Bool} (hsize : count = true → rows.length < wordCount)
    (hmore : (pageOf rows q count).hasMore = false) :
    rows.length ≤ q.offset.toNat + (pageRows rows q).length := by
  cases count with
  | false =>
    have hlen := length_pageRows rows q
    have hne : (pageRows rows q).length ≠ q.limit.toNat := of_decide_eq_false hmore
    omega
  | true =>
    have htotal : (UInt64.ofNat rows.length).toNat = rows.length :=
      UInt64.toNat_ofNat_of_lt' (hsize rfl)
    have hnot : ¬ advance q.offset (pageRows rows q).length < UInt64.ofNat rows.length :=
      of_decide_eq_false hmore
    have hadv := toNat_advance_le q.offset (pageRows rows q).length
    rw [UInt64.lt_iff_toNat_lt, htotal] at hnot
    omega

theorem exists_pageOf {s : MemoryStore} {table : String} {source : ListSource} {count : Bool}
    {page : ListEnvelope Record}
    (answer : (s.dataStore sorter).listEnvelope table source base count = some (.ok page)) :
    ∃ rows, matching? sorter (s.records table) source.resolve base = some rows ∧
      page = (pageOf rows source.resolve count).toEnvelope := by
  rw [listEnvelope_dataStore] at answer
  cases ht : s.table table with
  | error e => rw [ofTable_error ht] at answer; cases answer
  | ok records =>
    rw [ofTable_ok ht, Option.map_map] at answer
    obtain ⟨rows, hrows, hpage⟩ := Option.map_eq_some_iff.mp answer
    rw [records_of_table ht]
    exact ⟨rows, hrows, (Except.ok.inj hpage).symm⟩

/-- What stands behind an offset is on its page or behind the next offset. -/
theorem behind_sublist_pageOf (q : ListQuery) (count : Bool)
    (hsize : count = true → rows.length < wordCount) :
    (behind rows (some q.offset)).Sublist ((pageOf rows q count).toEnvelope.data ++
      behind rows (pageOf rows q count).toEnvelope.page.nextOffset) := by
  have hdata : (pageOf rows q count).toEnvelope.data = pageRows rows q := rows_pageOf rows q count
  have hnext : (pageOf rows q count).toEnvelope.page.nextOffset =
      if (pageOf rows q count).hasMore then
        some (advance q.offset (pageRows rows q).length) else none := by
    cases count <;> rfl
  rw [behind, drop_eq_pageRows_append, hdata, hnext]
  refine (List.append_sublist_append_left _).mpr ?_
  cases hmore : (pageOf rows q count).hasMore with
  | true => exact List.drop_sublist_drop_left _ (toNat_advance_le _ _)
  | false => rw [List.drop_eq_nil_of_le (length_le_of_not_hasMore hsize hmore)]; exact .slnil

end

/-! ### The walk -/

section
variable {sorter : Sorter Record} {table : String} {q : ListQuery} {base : Option Predicate}
  {count : Bool} {v v' : Visit}

namespace Visit

theorem Step.records_prefix (h : Step sorter table q base count v v') :
    v.store.records table <+: v'.store.records table := by
  cases h with
  | write w =>
    rcases w.records_apply_cases v.store table with heq | ⟨r, heq⟩
    · exact ⟨[], by rw [List.append_nil, heq]⟩
    · exact ⟨[r], heq.symm⟩
  | request follows asks answer => exact List.prefix_rfl

theorem records_prefix_of_run
    (hrun : Relation.ReflTransGen (Step sorter table q base count) v v') :
    v.store.records table <+: v'.store.records table := by
  induction hrun with
  | refl => exact List.prefix_rfl
  | tail _ step ih => exact ih.trans step.records_prefix

theorem unseen_sublist_write (w : Write)
    (hdouble : ∀ r ∈ (w.apply v.store).records table, q.orderBy.HasNoDouble r) :
    (v.unseen sorter table q base).Sublist
      ({ v with store := w.apply v.store }.unseen sorter table q base) := by
  show (behind _ v.next?).Sublist (behind _ v.next?)
  have hmatching : ((matching? sorter (v.store.records table) q base).getD []).Sublist
      ((matching? sorter ((w.apply v.store).records table) q base).getD []) := by
    rcases w.records_apply_cases v.store table with heq | ⟨r, heq⟩
    · rw [heq]
    · rw [heq] at hdouble ⊢
      exact matching?_sublist_concat hdouble
  cases v.next? with
  | none => exact .slnil
  | some offset => exact hmatching.drop _

/-- A step loses no row: what was in front of the client is on its page or still in front of it. -/
theorem Step.subperm (h : Step sorter table q base count v v')
    (hdouble : ∀ r ∈ v'.store.records table, q.orderBy.HasNoDouble r)
    (hsize : count = true → (v'.store.records table).length < wordCount) :
    (v.seen ++ v.unseen sorter table q base).Subperm
      (v'.seen ++ v'.unseen sorter table q base) := by
  cases h with
  | write w =>
    exact ((unseen_sublist_write w hdouble).append_left v.seen).subperm
  | @request offset source page follows asks answer =>
    obtain ⟨rows, hrows, rfl⟩ := exists_pageOf answer
    rw [asks] at hrows ⊢
    have hmatching : matching? sorter (v.store.records table) q base = some rows := hrows
    have hpage := behind_sublist_pageOf { q with offset := offset } count fun hc =>
      Nat.lt_of_le_of_lt (length_matching?_le hrows) (hsize hc)
    have hunseen : v.unseen sorter table q base = behind rows (some offset) := by
      rw [unseen, follows, hmatching]; rfl
    rw [hunseen, unseen, hmatching]
    refine (hpage.append_left v.seen).subperm.trans (List.Perm.subperm ?_)
    rw [← List.append_assoc]
    exact List.perm_append_comm.append_right _

theorem subperm_of_run (hrun : Relation.ReflTransGen (Step sorter table q base count) v v')
    (hdouble : ∀ r ∈ v'.store.records table, q.orderBy.HasNoDouble r)
    (hsize : count = true → (v'.store.records table).length < wordCount) :
    (v.seen ++ v.unseen sorter table q base).Subperm
      (v'.seen ++ v'.unseen sorter table q base) := by
  -- from the last step backwards: the tables before it are prefixes of the last one
  induction hrun with
  | refl => exact .refl _
  | tail _ step ih =>
    have hgrown := step.records_prefix
    refine (ih (fun r hr => hdouble r (hgrown.subset hr)) fun hc => ?_).trans
      (step.subperm hdouble hsize)
    exact Nat.lt_of_le_of_lt hgrown.length_le (hsize hc)

theorem nextOffset_of_run {start : MemoryStore}
    (hrun : Relation.ReflTransGen (Step sorter table q base count) ⟨start, []⟩ v) :
    ∀ page ∈ v.pages, page.page.hasMore = false → page.page.nextOffset = none := by
  induction hrun with
  | refl => exact fun page hpage => absurd hpage List.not_mem_nil
  | tail _ step ih =>
    cases step with
    | write w => exact ih
    | request follows asks answer =>
      intro page hpage hended
      rcases List.mem_cons.mp hpage with rfl | hpage
      · obtain ⟨rows, -, rfl⟩ := exists_pageOf answer
        simp only [Page.toEnvelope, PageMeta.withHasMore] at hended ⊢
        rw [hended]; rfl
      · exact ih page hpage hended

end Visit

/-- A client that walks from the first row to a page that no more rows are said to follow has seen
every row that matched when it started, at least as many times as it was there, whatever was put in
meanwhile. The table never has a double in the sort column, and its size is a word. -/
theorem inserts_skip_nothing {start : MemoryStore} {c : ListConfig} {params : QueryPairs}
    {page : ListEnvelope Record}
    (hrun : Relation.ReflTransGen (Visit.Step sorter table (c.query params) base count)
      ⟨start, []⟩ v)
    (hlast : v.pages.head? = some page) (hended : page.page.hasMore = false)
    (hdouble : ∀ r ∈ v.store.records table, (c.query params).orderBy.HasNoDouble r)
    (hsize : count = true → (v.store.records table).length < wordCount) :
    ((start.records table).filter (Predicate.holds? ((c.query params).filterWith base))).Subperm
      (v.pages.flatMap (·.data)) := by
  have hkept := Visit.subperm_of_run hrun hdouble hsize
  obtain ⟨earlier, hpages⟩ := List.head?_eq_some_iff.mp hlast
  have hnone := Visit.nextOffset_of_run hrun page (by rw [hpages]; exact List.mem_cons_self) hended
  have hend : v.unseen sorter table (c.query params) base = [] := by
    rw [Visit.unseen, Visit.next?, hpages]
    show behind _ page.page.nextOffset = []
    rw [hnone]; rfl
  have hgrown := Visit.records_prefix_of_run hrun
  obtain ⟨rows, hrows, hsort⟩ := exists_matching? sorter base
    fun r hr => hdouble r (hgrown.subset hr)
  have hstart : Visit.unseen ⟨start, []⟩ sorter table (c.query params) base = rows := by
    show ((matching? sorter (start.records table) (c.query params) base).getD []).drop 0 = rows
    rw [hrows]; rfl
  rw [hend, hstart, List.append_nil] at hkept
  exact hsort.perm.symm.subperm.trans hkept

end

def numberedPage (numbers : List Int64) (page : PageMeta) : ListEnvelope Record :=
  ⟨numbers.map numbered, page⟩

/-- Two rows a page of three rows, while one is put in front of all: the one that it pushes over the
offset is seen again. -/
theorem insert_in_front_skips_nothing :
    let start : MemoryStore := twoItems.insert "items" (numbered 3)
    let v : Visit := ⟨start.insert "items" (numbered 0),
      [numberedPage [2, 3] ⟨4, 2, 2, false, none⟩, numberedPage [1, 2] ⟨3, 2, 0, true, some 2⟩]⟩
    Relation.ReflTransGen (Visit.Step .insertion "items" (twoAPage.query ∅) none true)
        ⟨start, []⟩ v ∧
      (∀ r ∈ v.store.records "items", (twoAPage.query ∅).orderBy.HasNoDouble r) ∧
      (v.store.records "items").length < wordCount ∧
      [numbered 2, numbered 1, numbered 3].Subperm (v.pages.flatMap (·.data)) := by
  intro start v
  have hzero : (ListSource.raw (.pairs ∅) twoAPage).resolve =
      { twoAPage.query ∅ with offset := 0 } := rfl
  have hfirst : (start.dataStore .insertion).listEnvelope "items" (.raw (.pairs ∅) twoAPage) none
      true = some (.ok (numberedPage [1, 2] ⟨3, 2, 0, true, some 2⟩)) := rfl
  have htwo : (ListSource.raw (.pairs (.atOffset ∅ 2)) twoAPage).resolve =
      { twoAPage.query ∅ with offset := 2 } := query_atOffset (by decide) twoAPage ∅
  have hsecond : (v.store.dataStore .insertion).listEnvelope "items"
      (.raw (.pairs (.atOffset ∅ 2)) twoAPage) none true =
        some (.ok (numberedPage [2, 3] ⟨4, 2, 2, false, none⟩)) := by
    rw [listEnvelope_dataStore, htwo]; rfl
  have hone : Visit.Step .insertion "items" (twoAPage.query ∅) none true ⟨start, []⟩
      ⟨start, [numberedPage [1, 2] ⟨3, 2, 0, true, some 2⟩]⟩ := .request rfl hzero hfirst
  have hrun : Relation.ReflTransGen (Visit.Step .insertion "items" (twoAPage.query ∅) none true)
      ⟨start, []⟩ v :=
    ((Relation.ReflTransGen.single hone).tail (.write _ (.insert "items" (numbered 0)))).tail
      (.request rfl htwo hsecond)
  have hrows : v.store.records "items" = [numbered 2, numbered 1, numbered 3, numbered 0] := rfl
  have hdouble : ∀ r ∈ v.store.records "items", (twoAPage.query ∅).orderBy.HasNoDouble r := by
    intro r hr x hx
    simp only [hrows, List.mem_cons, List.not_mem_nil, or_false] at hr
    rcases hr with rfl | rfl | rfl | rfl <;> cases hx
  have hsize : (v.store.records "items").length < wordCount := by rw [hrows]; decide
  exact ⟨hrun, hdouble, hsize, inserts_skip_nothing hrun rfl rfl hdouble fun _ => hsize⟩

end Allowlist.MemoryStore
