import Allowlist.Proofs.Listing.Bounds
import Allowlist.Proofs.Listing.Walk

/-! # Page facts at the end of the words

The end of a page is computed in words, where a sum that does not fit stands at the largest. No total
lies beyond that word, so the comparison with it comes out as it would in numbers without bound, and
the next offset is given only where it fits. Offsets that are asked for have 63 bits: behind them
there is room for any page, so that a total which is not counted fits as well. -/

namespace Allowlist

open MemoryStore

theorem advance_lt_iff {offset total : UInt64} {rows : Nat} :
    advance offset rows < total ↔ offset.toNat + rows < total.toNat := by
  -- a sum that does not fit stands at the largest word, and no total lies beyond that
  have htotal : total.toNat < wordCount := total.toNat_lt
  rw [UInt64.lt_iff_toNat_lt, toNat_advance_eq_min]
  omega

namespace PageMeta

/-- The facts of a page of `returned` rows from `offset` on, out of `total`, are those of numbers
without bound. -/
structure IsExact (page : PageMeta) (total offset returned : Nat) : Prop where
  hasMore_iff : page.hasMore = true ↔ offset + returned < total
  isSome_nextOffset : page.nextOffset.isSome = page.hasMore
  toNat_nextOffset : ∀ next ∈ page.nextOffset, next.toNat = offset + returned ∧ next.toNat < total

theorem mem_nextOffset_withHasMore {total limit offset next : UInt64} {returned : Nat}
    {hasMore : Bool} (h : next ∈ (withHasMore total limit offset returned hasMore).nextOffset) :
    hasMore = true ∧ next = advance offset returned := by
  cases hasMore with
  | false => cases h
  | true => exact ⟨rfl, (Option.some.inj h).symm⟩

theorem isExact_ofTotal (total limit offset : UInt64) (returned : Nat) :
    (ofTotal total limit offset returned).IsExact total.toNat offset.toNat returned where
  hasMore_iff := decide_eq_true_iff.trans advance_lt_iff
  isSome_nextOffset := by
    simp only [ofTotal, withHasMore]
    split <;> simp [*]
  toNat_nextOffset next h := by
    obtain ⟨hmore, rfl⟩ := mem_nextOffset_withHasMore h
    have hfits := advance_lt_iff.mp (of_decide_eq_true hmore)
    have htotal : total.toNat < wordCount := total.toNat_lt
    rw [toNat_advance (by omega)]
    exact ⟨rfl, hfits⟩

end PageMeta

theorem Page.toEnvelope_counted {Row : Type} (q : ListQuery) (rows : List Row) (total : UInt64) :
    (Page.counted q rows total).toEnvelope = .ofTotal rows total q.limit q.offset := rfl

namespace ListConfig
variable {c : ListConfig} {params : QueryPairs}

theorem toNat_advance_offset {rows : Nat} (h : rows < twoPow 63) :
    (advance (c.query params).offset rows).toNat = (c.query params).offset.toNat + rows := by
  have hoffset : ((c.query params).offset.toNat : Int) ≤ maxInt64 := pageOffset_le _
  have hpower : twoPow 63 = 0x8000000000000000 := rfl
  -- two numbers of 63 bits do not add up to more than a word holds
  refine toNat_advance ?_
  simp only [maxInt64, wordCount] at *; omega

end ListConfig

namespace DataStore
variable {m : Type → Type} [Monad m] [LawfulMonad m] {Row : Type}

theorem listEnvelope_counted (store : DataStore m Row) (table : String) (source : ListSource)
    (base : Option Predicate) :
    store.listEnvelope table source base true = (do
      let rows ← store.select table (source.resolve.selection base)
      let counted ← store.count table (source.resolve.filterWith base)
      return .ofTotal rows (counted.getD 0) source.resolve.limit source.resolve.offset) := by
  simp only [listEnvelope, fetchPage, if_true, bind_assoc, pure_bind, Page.toEnvelope_counted]
  rfl

theorem listEnvelope_uncounted (store : DataStore m Row) (table : String) (source : ListSource)
    (base : Option Predicate) :
    store.listEnvelope table source base false = (do
      let rows ← store.select table (source.resolve.selection base)
      return (Page.uncounted source.resolve rows).toEnvelope) := by
  simp only [listEnvelope, fetchPage, if_false, Bool.false_eq_true, bind_assoc, pure_bind]

/-- What a page says of the rows behind it is true of numbers without bound, whatever words it is
computed from. A listing that is counted answers with such a page, out of no rows where the store
does not know how many there are; one that is not counted tells the end of its page exactly. -/
theorem page_facts_are_exact :
    (∀ (total limit offset : UInt64) (returned : Nat),
      (PageMeta.ofTotal total limit offset returned).IsExact total.toNat offset.toNat returned) ∧
    (∀ (data : List Row) (total limit offset : UInt64),
      (ListEnvelope.ofTotal data total limit offset).data = data ∧
        (ListEnvelope.ofTotal data total limit offset).page.IsExact total.toNat offset.toNat
          data.length) ∧
    ∀ (store : DataStore m Row) (table : String) (c : ListConfig) (params : QueryPairs)
      (source : ListSource) (base : Option Predicate), source.resolve = c.query params →
      let q := c.query params
      store.listEnvelope table source base true = (do
        let rows ← store.select table (q.selection base)
        let counted ← store.count table (q.filterWith base)
        return .ofTotal rows (counted.getD 0) q.limit q.offset) ∧
      ∃ guess : List Row → ListEnvelope Row,
        store.listEnvelope table source base false =
          (do return guess (← store.select table (q.selection base))) ∧
        ∀ rows : List Row, rows.length < twoPow 63 →
          (guess rows).data = rows ∧
          (guess rows).page.total.toNat = q.offset.toNat + rows.length ∧
          ∀ next ∈ (guess rows).page.nextOffset, next.toNat = q.offset.toNat + rows.length := by
  refine ⟨PageMeta.isExact_ofTotal,
    fun data total limit offset => ⟨rfl, PageMeta.isExact_ofTotal total limit offset data.length⟩,
    fun store table c params source base hsource => ⟨?_, ?_⟩⟩
  · rw [listEnvelope_counted, hsource]
  · refine ⟨fun rows => (Page.uncounted (c.query params) rows).toEnvelope, ?_, fun rows hrows => ?_⟩
    · rw [listEnvelope_uncounted, hsource]
    · have hend : (advance (c.query params).offset rows.length).toNat =
          (c.query params).offset.toNat + rows.length := ListConfig.toNat_advance_offset hrows
      refine ⟨rfl, hend, fun next hnext => ?_⟩
      obtain ⟨-, rfl⟩ := PageMeta.mem_nextOffset_withHasMore hnext
      exact hend

/-- Two rows of any table, which it does not count. -/
def twoRows : DataStore Id Nat where
  select _ _ := return [1, 2]
  count _ _ := return none

/-- A page of two rows from the last offset that a request can come to: its end takes all 64 bits. -/
theorem last_page_is_exact :
    let params : QueryPairs := .ofList [("offset", "9999999999999999999999")]
    let source : ListSource := .raw (.pairs params) twoAPage
    source.resolve = twoAPage.query params ∧ [1, 2].length < twoPow 63 ∧
      (∃ envelope : ListEnvelope Nat, twoRows.listEnvelope "items" source none false = .ok envelope ∧
        envelope.page.total.toNat = 9223372036854775809) ∧
      twoRows.listEnvelope "items" source none true =
        .ok (.ofTotal [1, 2] 0 2 9223372036854775807) := by
  intro params source
  have hshort : [1, 2].length < twoPow 63 := by decide
  have hoffset : (twoAPage.query params).offset = 9223372036854775807 := by decide +kernel
  obtain ⟨hcounted, guess, hguess, hexact⟩ :=
    page_facts_are_exact.2.2 twoRows "items" twoAPage params source none rfl
  obtain ⟨-, htotal, -⟩ := hexact [1, 2] hshort
  rw [hoffset] at htotal hcounted
  exact ⟨rfl, hshort, ⟨guess [1, 2], hguess, htotal⟩, hcounted⟩

end DataStore

end Allowlist
