import Allowlist.Proofs.Binary64.Rounding
import Allowlist.Proofs.Value.Uuid
import Allowlist.Store.Order

/-! # The order of values

Values of different rank go by their rank. Values of one rank are ordered by a key: truth values
and instants by themselves, texts and UUIDs by their texts. Numbers are the exception. Integers are
ordered exactly, but an integer goes to a double only as the double nearest to it, and a double that
is no number ties with every number. So a double can tie with two integers that differ, and then the
order is no order: `Blurs` says which doubles do that, and no other value does. -/

namespace Allowlist

section
variable {α : Type} {cmp : α → α → Ordering} {a b c : α}

theorem cmp_swap [Std.OrientedCmp cmp] (a b : α) : cmp b a = (cmp a b).swap :=
  Std.OrientedCmp.eq_swap

theorem ne_gt_trans [Std.TransCmp cmp] (hab : cmp a b ≠ .gt) (hbc : cmp b c ≠ .gt) :
    cmp a c ≠ .gt := by
  have hle := Std.TransCmp.isLE_trans (Ordering.ne_gt_iff_isLE.mp hab) (Ordering.ne_gt_iff_isLE.mp hbc)
  exact Ordering.ne_gt_iff_isLE.mpr hle

end

instance : Std.TransCmp Timestamp.compare :=
  inferInstanceAs (Std.TransCmp
    (compareLex (compareOn Timestamp.seconds) (compareOn Timestamp.nanos)))

theorem Uuid.compare_swap (a b : Uuid) : b.compare a = (a.compare b).swap :=
  cmp_swap a.value.toNat b.value.toNat

theorem Binary64.compare?_swap (x y : Binary64) :
    y.compare? x = (x.compare? y).map Ordering.swap := by
  unfold compare?
  rw [Bool.or_comm]
  split
  · rfl
  · exact congrArg some (cmp_swap x.position y.position)

namespace FieldValue
variable {a b c : FieldValue}

/-! ### Both sides -/

theorem compare?_swap (a b : FieldValue) : b.compare? a = (a.compare? b).map Ordering.swap := by
  cases a with
  | null => rw [compare?_null_left, compare?_null_right]; rfl
  | boolean p =>
    cases b with
    | boolean q => exact congrArg some (cmp_swap p q)
    | _ => rfl
  | integer i =>
    cases b with
    | integer j => exact congrArg some (cmp_swap i.toInt j.toInt)
    | float y => exact Binary64.compare?_swap _ y
    | _ => rfl
  | float x =>
    cases b with
    | integer j => exact Binary64.compare?_swap x _
    | float y => exact Binary64.compare?_swap x y
    | _ => rfl
  | uuid u =>
    cases b with
    | uuid v => exact congrArg some (u.compare_swap v)
    | string t => exact congrArg some (cmp_swap (String.ofList u.text) t)
    | _ => rfl
  | dateTime t =>
    cases b with
    | dateTime s => exact congrArg some (cmp_swap t s)
    | _ => rfl
  | string s =>
    cases b with
    | uuid v => exact congrArg some (cmp_swap s (String.ofList v.text))
    | string t => exact congrArg some (cmp_swap s t)
    | _ => rfl

theorem order_swap (a b : FieldValue) : b.order a = (a.order b).swap := by
  unfold order
  rw [compare?_swap a b]
  cases a.compare? b with
  | none => exact (Nat.compare_swap a.kindRank b.kindRank).symm
  | some o => rfl

/-! ### Ranks -/

theorem order_of_rank_lt (h : a.kindRank < b.kindRank) : a.order b = .lt := by
  have hnone : a.compare? b = none := by
    cases a <;> cases b <;> first | rfl | simp [kindRank] at h
  rw [order, hnone]
  exact Nat.compare_eq_lt.mpr h

theorem rank_le_of_order_ne_gt (h : a.order b ≠ .gt) : a.kindRank ≤ b.kindRank := by
  refine Nat.le_of_not_lt fun hlt => h ?_
  rw [order_swap b a, order_of_rank_lt hlt]
  rfl

/-! ### Texts -/

/-- The text that strings and UUIDs are ordered by. -/
def sortText : FieldValue → String
  | uuid u => String.ofList u.text
  | string s => s
  | _ => ""

theorem order_of_text (ha : a.kindRank = 2) (hb : b.kindRank = 2) :
    a.order b = compare a.sortText b.sortText := by
  cases a <;> cases ha <;> cases b <;> cases hb
  · exact (Uuid.compare_text _ _).symm
  all_goals rfl

/-! ### Numbers -/

/-- Where a number stands among the doubles, an integer at the double nearest to it. -/
def place? : FieldValue → Option Int
  | integer i => some (Binary64.ofInt i.toInt).position
  | float x => if x.isNaN then none else some x.position
  | _ => none

/-- The order of two places; no place ties with every one. -/
def comparePlaces : Option Int → Option Int → Ordering
  | some p, some q => compare p q
  | _, _ => .eq

theorem getD_compare?_eq (x y : Binary64) :
    (x.compare? y).getD .eq = comparePlaces (place? (.float x)) (place? (.float y)) := by
  simp only [Binary64.compare?, place?]
  cases x.isNaN <;> cases y.isNaN <;> rfl

theorem place?_integer (i : Int64) : place? (integer i) = place? (float (.ofInt i.toInt)) := by
  simp only [place?, Binary64.isNaN_ofInt, Bool.false_eq_true, if_false]

theorem order_of_float (ha : a.kindRank = 1) (hb : b.kindRank = 1)
    (h : (∃ x, a = .float x) ∨ ∃ x, b = .float x) : a.order b = comparePlaces a.place? b.place? := by
  cases a <;> cases ha <;> cases b <;> cases hb
  · rcases h with ⟨x, h⟩ | ⟨x, h⟩ <;> cases h
  · rw [place?_integer]; exact getD_compare?_eq _ _
  · rw [place?_integer]; exact getD_compare?_eq _ _
  · exact getD_compare?_eq _ _

theorem order_integer_ne_gt_iff {i j : Int64} :
    (integer i).order (integer j) ≠ .gt ↔ i.toInt ≤ j.toInt := by
  show compare i.toInt j.toInt ≠ .gt ↔ _
  rw [Int.compare_ne_gt]

theorem exists_integer (ha : a.kindRank = 1) (h : ¬ ∃ x, a = .float x) : ∃ i, a = .integer i := by
  cases a <;> cases ha
  · exact ⟨_, rfl⟩
  · exact absurd ⟨_, rfl⟩ h

theorem place_le {p q : Int} (ha : a.kindRank = 1) (hb : b.kindRank = 1) (h : a.order b ≠ .gt)
    (hp : a.place? = some p) (hq : b.place? = some q) : p ≤ q := by
  by_cases hf : (∃ x, a = .float x) ∨ ∃ x, b = .float x
  · rw [order_of_float ha hb hf, hp, hq] at h
    exact Int.compare_ne_gt.mp h
  · obtain ⟨i, rfl⟩ := exists_integer ha fun hx => hf (.inl hx)
    obtain ⟨j, rfl⟩ := exists_integer hb fun hx => hf (.inr hx)
    cases hp
    cases hq
    exact Binary64.position_ofInt_mono (order_integer_ne_gt_iff.mp h)

/-- A double that ties with two numbers which need not tie: it is no number, or it is the one that
two integers are rounded to. -/
def Blurs (x : Binary64) (a c : FieldValue) : Prop :=
  a.kindRank = 1 ∧ c.kindRank = 1 ∧
    (x.isNaN = true ∨ ∃ i j, a = .integer i ∧ c = .integer j ∧
      (Binary64.ofInt i.toInt).position = x.position ∧
      (Binary64.ofInt j.toInt).position = x.position)

theorem Blurs.symm {x : Binary64} (h : Blurs x a c) : Blurs x c a := by
  obtain ⟨ha, hc, hx | ⟨i, j, hi, hj, hpi, hpj⟩⟩ := h
  · exact ⟨hc, ha, .inl hx⟩
  · exact ⟨hc, ha, .inr ⟨j, i, hj, hi, hpj, hpi⟩⟩

theorem Blurs.order_eq {x : Binary64} (h : Blurs x a c) : a.order (.float x) = .eq := by
  obtain ⟨ha, -, hx⟩ := h
  rw [order_of_float ha rfl (.inr ⟨x, rfl⟩)]
  by_cases hnan : x.isNaN = true
  · rw [show place? (.float x) = none from if_pos hnan]
    cases a.place? <;> rfl
  · obtain ⟨i, -, rfl, -, hi, -⟩ := hx.resolve_left hnan
    rw [show place? (.float x) = some x.position from if_neg hnan, place?, hi]
    exact Std.ReflOrd.compare_self

theorem exists_place (ha : a.kindRank = 1) (h : ∀ x, a = .float x → ¬ x.isNaN = true) :
    ∃ p, a.place? = some p := by
  by_cases hx : ∃ x, a = .float x
  · obtain ⟨x, rfl⟩ := hx
    exact ⟨x.position, if_neg (h x rfl)⟩
  · obtain ⟨i, rfl⟩ := exists_integer ha hx
    exact ⟨_, rfl⟩

/-- Around a number with a place all is in order if one of the outer numbers is a double. -/
theorem order_trans_of_place {q : Int} (ha : a.kindRank = 1) (hb : b.kindRank = 1)
    (hc : c.kindRank = 1) (hq : b.place? = some q) (hf : (∃ x, a = .float x) ∨ ∃ x, c = .float x)
    (hab : a.order b ≠ .gt) (hbc : b.order c ≠ .gt) : a.order c ≠ .gt := by
  rw [order_of_float ha hc hf]
  cases hp : a.place? with
  | none => intro h; cases h
  | some p =>
    cases hr : c.place? with
    | none => intro h; cases h
    | some r =>
      have hpq := place_le ha hb hab hp hq
      have hqr := place_le hb hc hbc hq hr
      exact Int.compare_ne_gt.mpr (Int.le_trans hpq hqr)

/-- A double stands between two integers out of order only if both are rounded to it. -/
theorem blurs_of_integers {x : Binary64} {i j : Int64} (hnan : ¬ x.isNaN = true)
    (hix : (integer i).order (.float x) ≠ .gt) (hxj : (float x).order (.integer j) ≠ .gt)
    (hij : (integer i).order (.integer j) = .gt) : Blurs x (.integer i) (.integer j) := by
  have hx : place? (.float x) = some x.position := if_neg hnan
  have hji : (integer j).order (.integer i) ≠ .gt := by rw [order_swap, hij]; decide
  -- rounded, the greater integer is not above the double, nor the lesser one below it
  have hpi := place_le rfl rfl hix rfl hx
  have hpj := place_le rfl rfl hxj hx rfl
  have hpji := place_le rfl rfl hji rfl rfl
  exact ⟨rfl, rfl, .inr ⟨i, j, rfl, rfl, by omega, by omega⟩⟩

/-- Only a double that blurs two numbers stands between them out of order. -/
theorem order_trans_of_numbers (ha : a.kindRank = 1) (hb : b.kindRank = 1) (hc : c.kindRank = 1)
    (hblur : ∀ x, b = .float x → ¬ Blurs x a c) (hab : a.order b ≠ .gt) (hbc : b.order c ≠ .gt) :
    a.order c ≠ .gt := by
  have hnan : ∀ x, b = .float x → ¬ x.isNaN = true :=
    fun x hx hnan => hblur x hx ⟨ha, hc, .inl hnan⟩
  by_cases hf : (∃ x, a = .float x) ∨ ∃ x, c = .float x
  · obtain ⟨q, hq⟩ := exists_place hb hnan
    exact order_trans_of_place ha hb hc hq hf hab hbc
  · obtain ⟨i, rfl⟩ := exists_integer ha fun hx => hf (.inl hx)
    obtain ⟨j, rfl⟩ := exists_integer hc fun hx => hf (.inr hx)
    by_cases hx : ∃ x, b = .float x
    · obtain ⟨x, rfl⟩ := hx
      exact fun hij => hblur x rfl (blurs_of_integers (hnan x rfl) hab hbc hij)
    · obtain ⟨k, rfl⟩ := exists_integer hb hx
      have hik := order_integer_ne_gt_iff.mp hab
      have hkj := order_integer_ne_gt_iff.mp hbc
      exact order_integer_ne_gt_iff.mpr (Int.le_trans hik hkj)

/-! ### All values -/

theorem order_boolean (p q : Bool) : (boolean p).order (boolean q) = compare p q := rfl

theorem order_dateTime (t s : Timestamp) : (dateTime t).order (dateTime s) = t.compare s := rfl

theorem order_trans_of_texts (ha : a.kindRank = 2) (hb : b.kindRank = 2) (hc : c.kindRank = 2)
    (hab : a.order b ≠ .gt) (hbc : b.order c ≠ .gt) : a.order c ≠ .gt := by
  rw [order_of_text ha hb] at hab
  rw [order_of_text hb hc] at hbc
  rw [order_of_text ha hc]
  exact ne_gt_trans hab hbc

/-- The order of values is transitive but for the doubles that blur numbers. -/
theorem order_trans (hblur : ∀ x, b = .float x → ¬ Blurs x a c) (hab : a.order b ≠ .gt)
    (hbc : b.order c ≠ .gt) : a.order c ≠ .gt := by
  rcases Nat.lt_or_ge a.kindRank c.kindRank with hlt | hge
  · rw [order_of_rank_lt hlt]; decide
  have hrab := rank_le_of_order_ne_gt hab
  have hrbc := rank_le_of_order_ne_gt hbc
  have ha : a.kindRank = b.kindRank := by omega
  have hc : c.kindRank = b.kindRank := by omega
  cases b with
  | null =>
    cases a <;> cases ha
    cases c <;> cases hc
    exact hab
  | boolean q =>
    cases a <;> cases ha
    cases c <;> cases hc
    rw [order_boolean] at *
    exact ne_gt_trans hab hbc
  | dateTime t =>
    cases a <;> cases ha
    cases c <;> cases hc
    rw [order_dateTime] at *
    exact ne_gt_trans hab hbc
  | integer j => exact order_trans_of_numbers ha rfl hc hblur hab hbc
  | float x => exact order_trans_of_numbers ha rfl hc hblur hab hbc
  | uuid v => exact order_trans_of_texts ha rfl hc hab hbc
  | string t => exact order_trans_of_texts ha rfl hc hab hbc

end FieldValue

end Allowlist
