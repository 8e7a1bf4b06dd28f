import Allowlist.Proofs.Store.Stable
import Allowlist.Proofs.Value.Order
import Allowlist.Store.Memory

/-! # The order of records

Two records compare the same way from either side. Three of them are out of order only around a
double: it ties with two numbers, and these do not tie with each other. Every other mix of kinds,
of missing values and of nulls is in a total preorder, whichever the direction, so that no sort
breaks off. -/

namespace Allowlist

namespace OrderBy

/-! ### Keys -/

section
variable {k l m : Option FieldValue}

theorem compareKeys_swap (k l : Option FieldValue) : compareKeys l k = (compareKeys k l).swap := by
  cases k with
  | none => cases l <;> rfl
  | some v =>
    cases l with
    | none => rfl
    | some w => exact FieldValue.order_swap v w

/-- Around a double that ties with two numbers these need not be in order. -/
def BlursKeys (k l m : Option FieldValue) : Prop :=
  ∃ x v w, k = some v ∧ l = some (.float x) ∧ m = some w ∧ FieldValue.Blurs x v w

theorem BlursKeys.symm (h : BlursKeys k l m) : BlursKeys m l k := by
  obtain ⟨x, v, w, hk, hl, hm, hx⟩ := h
  exact ⟨x, w, v, hm, hl, hk, hx.symm⟩

theorem BlursKeys.compare_eq (h : BlursKeys k l m) : compareKeys k l = .eq := by
  obtain ⟨x, v, w, rfl, rfl, -, hx⟩ := h
  exact hx.order_eq

theorem compareKeys_trans (hblur : ¬ BlursKeys k l m) (hkl : compareKeys k l ≠ .gt)
    (hlm : compareKeys l m ≠ .gt) : compareKeys k m ≠ .gt := by
  cases m with
  | none => intro hkm; cases k <;> cases hkm
  | some w =>
    cases l with
    | none => exact absurd rfl hlm
    | some u =>
      cases k with
      | none => exact absurd rfl hkl
      | some v =>
        refine FieldValue.order_trans ?_ hkl hlm
        rintro x rfl hx
        exact hblur ⟨x, v, w, rfl, rfl, rfl, hx⟩

end

/-! ### Records -/

variable (o : OrderBy) {a b c : Record}

theorem compareRecords_swap (a b : Record) :
    o.compareRecords b a = (o.compareRecords a b).swap := by
  unfold compareRecords
  rw [compareKeys_swap (o.key? a) (o.key? b)]
  cases o.direction <;> rfl

/-- The middle one of three records has a double that ties with the numbers of the other two. -/
def Blurs (a b c : Record) : Prop := BlursKeys (o.key? a) (o.key? b) (o.key? c)

variable {o}

theorem Blurs.symm (h : o.Blurs a b c) : o.Blurs c b a := BlursKeys.symm h

theorem Blurs.compare_eq (h : o.Blurs a b c) : o.compareRecords a b = .eq := by
  have hkeys := BlursKeys.compare_eq h
  unfold compareRecords
  rw [hkeys]
  cases o.direction <;> rfl

theorem compareRecords_trans (hblur : ¬ o.Blurs a b c) (hab : o.compareRecords a b ≠ .gt)
    (hbc : o.compareRecords b c ≠ .gt) : o.compareRecords a c ≠ .gt := by
  unfold compareRecords at *
  cases hd : o.direction with
  | asc =>
    rw [hd] at hab hbc
    exact compareKeys_trans hblur hab hbc
  | desc =>
    -- descending is ascending read from the other end
    rw [hd] at hab hbc
    simp only [← compareKeys_swap] at *
    exact compareKeys_trans (fun h => hblur h.symm) hbc hab

/-- The record has no double in the ordering's column. -/
def HasNoDouble (o : OrderBy) (r : Record) : Prop := ∀ x, r.get? o.column ≠ some (.float x)

theorem HasNoDouble.not_blurs (h : o.HasNoDouble b) : ¬ o.Blurs a b c := by
  rintro ⟨x, -, -, -, hb, -⟩
  exact h x (Option.filter_eq_some_iff.mp hb).1

theorem preorders_compareRecords (o : OrderBy) : Preorders o.compareRecords o.HasNoDouble where
  swap _ _ := o.compareRecords_swap _ _
  trans _ hb _ := compareRecords_trans hb.not_blurs

/-- What stands between the order of records and a total preorder is a double that ties with two
numbers of which one comes after the other. -/
theorem compareRecords_preorder_iff (o : OrderBy) (a b c : Record) :
    o.compareRecords b a = (o.compareRecords a b).swap ∧
      ((o.compareRecords a b ≠ .gt → o.compareRecords b c ≠ .gt → o.compareRecords a c ≠ .gt) ↔
        ¬ (o.Blurs a b c ∧ o.compareRecords a c = .gt)) := by
  refine ⟨o.compareRecords_swap a b, fun htrans ⟨hblur, hac⟩ => ?_, fun h hab hbc hac => ?_⟩
  · have hab := hblur.compare_eq
    have hbc : o.compareRecords b c = .eq := by
      rw [o.compareRecords_swap c b, hblur.symm.compare_eq]; rfl
    exact htrans (by rw [hab]; decide) (by rw [hbc]; decide) hac
  · exact compareRecords_trans (fun hblur => h ⟨hblur, hac⟩) hab hbc hac

def priced (v : FieldValue) : Record := .ofList [("price", v)]

/-- The double `2 ^ 53` ties with the integer one above it, and with itself, as an integer too. -/
theorem compareRecords_not_trans :
    ¬ ∀ (o : OrderBy) (a b c : Record),
      o.compareRecords b a = (o.compareRecords a b).swap ∧
        (o.compareRecords a b ≠ .gt → o.compareRecords b c ≠ .gt → o.compareRecords a c ≠ .gt) := by
  intro h
  have htrans := (h ⟨"price", .asc⟩ (priced (.integer 9007199254740993))
    (priced (.float ⟨0x4340000000000000⟩)) (priced (.integer 9007199254740992))).2
  exact htrans (by decide +kernel) (by decide +kernel) (by decide +kernel)

end OrderBy

/-- Records without doubles in the sort column are sorted, whatever the sort. -/
theorem MemoryStore.exists_sorted? {o : OrderBy} {records : List Record}
    (hdouble : ∀ r ∈ records, o.HasNoDouble r) (sorter : Sorter Record) (filter : Option Predicate) :
    ∃ rows, sorted? sorter filter o records = some rows ∧
      IsStableSort o.compareRecords (records.filter (Predicate.holds? filter)) rows :=
  sorter.sorts (o.preorders_compareRecords.mono fun r hr => hdouble r (List.mem_filter.mp hr).1)

end Allowlist
