import Allowlist.Proofs.Listing.Walk

/-! # Pages are asked for in leading integers

The size and the start of a page are texts, and each of them is read as the integer that its sign
and its digits denote, held within 64 bits however many digits there are. The page is that integer
brought into its range; a text without a digit, like a parameter that is not there, leaves the
default. -/

namespace Allowlist

open Text MemoryStore

namespace ListConfig

/-- The page of a query is that of the leading integers of its two parameters. -/
structure ReadsPage (c : ListConfig) (params : QueryPairs) : Prop where
  limit_asked : ∀ (raw : String) (i : Int), IsLast params.toList limitParam raw →
    leadingInteger? raw = some i →
      ((c.query params).limit.toNat : Int) = max 1 (min i c.maxLimit.toNat)
  limit_default : (∀ raw, IsLast params.toList limitParam raw → leadingInteger? raw = none) →
    (c.query params).limit = c.defaultLimit
  offset_asked : ∀ (raw : String) (i : Int), IsLast params.toList offsetParam raw →
    leadingInteger? raw = some i →
      ((c.query params).offset.toNat : Int) = max 0 (min i maxInt64)
  offset_default : (∀ raw, IsLast params.toList offsetParam raw → leadingInteger? raw = none) →
    (c.query params).offset = 0

variable {c : ListConfig} {params : QueryPairs}

theorem bind_leadingInteger?_of_isLast {name raw : String}
    (h : IsLast params.toList name raw) :
    (params.get? name).bind leadingInteger? = leadingInteger? raw := by
  rw [QueryPairs.get?_eq_some_iff.mpr h, Option.bind_some]

theorem bind_leadingInteger?_eq_none {name : String}
    (h : ∀ raw, IsLast params.toList name raw → leadingInteger? raw = none) :
    (params.get? name).bind leadingInteger? = none :=
  Option.bind_eq_none_iff.mpr fun raw hraw => h raw (QueryPairs.get?_eq_some_iff.mp hraw)

theorem readsPage (c : ListConfig) (params : QueryPairs) : c.ReadsPage params where
  limit_asked raw i hlast hi := by
    have hmax := c.maxLimit_pos
    have hlimit := toNat_pageLimit (c := c) (params.get? limitParam)
    rw [bind_leadingInteger?_of_isLast hlast, hi] at hlimit
    simp only [query, hlimit]
    omega
  limit_default h := by
    simp only [query, pageLimit, bind_leadingInteger?_eq_none h]
  offset_asked raw i hlast hi := by
    have hbound := (leadingInteger?_mem hi).2
    have hoffset := toNat_pageOffset (params.get? offsetParam)
    rw [bind_leadingInteger?_of_isLast hlast, hi, Option.getD_some] at hoffset
    simp only [query, hoffset]
    omega
  offset_default h := by
    simp only [query, pageOffset, bind_leadingInteger?_eq_none h]

/-- A text is read as the integer of its sign and its digits, saturated once, and the page of every
query is that integer in its range. What is written as a decimal of 63 bits is read back. -/
theorem page_reads_saturated_integers :
    (∀ s : String, ∃ blanks sign digits rest, StartsAs s.toList blanks sign digits rest) ∧
    (∀ (s : String) (blanks sign digits rest : List Char),
      StartsAs s.toList blanks sign digits rest →
        (leadingInteger? s = none ↔ digits = []) ∧
        (digits ≠ [] →
          leadingInteger? s = some (max minInt64 (min maxInt64 (signedValue sign digits))))) ∧
    (∀ (c : ListConfig) (params : QueryPairs), c.ReadsPage params) ∧
    ∀ n : Nat, n < twoPow 63 → leadingInteger? (String.ofList (decimal n)) = some (n : Int) := by
  refine ⟨fun s => exists_startsAs s.toList, ?_, readsPage, fun n hn => ?_⟩
  · intro s blanks sign digits rest h
    exact ⟨h.leadingInteger?_eq_none_iff, h.leadingInteger?_eq_some⟩
  · have h63 : twoPow 63 = 9223372036854775808 := rfl
    exact leadingInteger?_decimal (by simp only [maxInt64]; omega)

/-- Twenty digits below zero behind a wide space, for the size and for the start of a page. -/
def vastPageParams : QueryPairs :=
  .ofList [("limit", "7"), ("limit", "\u2003-99999999999999999999px"),
    ("offset", "\u2003-99999999999999999999px")]

theorem vast_numbers_saturate :
    StartsAs "\u2003-99999999999999999999px".toList ['\u2003'] ['-'] (List.replicate 20 '9')
        ['p', 'x'] ∧
      leadingInteger? "\u2003-99999999999999999999px" = some minInt64 ∧
      ((twoAPage.query vastPageParams).limit.toNat : Int) = 1 ∧
      ((twoAPage.query vastPageParams).offset.toNat : Int) = 0 ∧
      leadingInteger? (String.ofList (decimal 9223372036854775807)) = some maxInt64 := by
  obtain ⟨-, hreads, hpage, hback⟩ := page_reads_saturated_integers
  have hstarts : StartsAs "\u2003-99999999999999999999px".toList ['\u2003'] ['-']
      (List.replicate 20 '9') ['p', 'x'] :=
    { parts := by decide
      blank := by simp [isBlank]
      sign_cases := by simp
      digit := fun c hc => List.eq_of_mem_replicate hc ▸ (by decide : '0' ≤ '9' ∧ '9' ≤ '9')
      blanks_end := by rintro c ⟨⟩; decide
      sign_end := by simp
      digits_end := by rintro c ⟨⟩; decide }
  have hmin := ((hreads _ _ _ _ _ hstarts).2 (by decide)).trans rfl
  have hlast {name raw : String} (h : vastPageParams.get? name = some raw) :
      IsLast vastPageParams.toList name raw := QueryPairs.get?_eq_some_iff.mp h
  have hp := hpage twoAPage vastPageParams
  exact ⟨hstarts, hmin, (hp.limit_asked _ _ (hlast rfl) hmin).trans rfl,
    (hp.offset_asked _ _ (hlast rfl) hmin).trans rfl, hback _ (by decide)⟩

end ListConfig

end Allowlist
