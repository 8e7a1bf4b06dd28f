import Allowlist.Uuid

/-! # UUIDs are in the order of their octets and of their texts

Of two lists of one length the first place in which they differ decides. So numbers are in the
order of their digits of a fixed width, most significant first, in any base and by any signs that
are in the order of the digits: octets are such digits, and so are hexadecimal ones. Hyphens that
all texts have in the same places change nothing. -/

namespace Allowlist

namespace Text

variable {α : Type} [Ord α]

theorem compare_append {xs xs' : List α} (ys ys' : List α) (h : xs.length = xs'.length) :
    compare (xs ++ ys) (xs' ++ ys') = (compare xs xs').then (compare ys ys') := by
  induction xs generalizing xs' with
  | nil => rw [List.eq_nil_of_length_eq_zero h.symm]; rfl
  | cons x xs ih =>
    obtain _ | ⟨x', xs'⟩ := xs'
    · cases h
    rw [List.cons_append, List.cons_append, List.compare_cons_cons, List.compare_cons_cons,
      ih (Nat.succ.inj h), Ordering.then_assoc]

/-! ### Digits -/

/-- The last digits of a number, most significant first, each by its sign. -/
def signs {α : Type} (sign : Nat → α) (base : Nat) : (width : Nat) → (n : Nat) → List α
  | 0, _ => []
  | width + 1, n => signs sign base width (n / base) ++ [sign (n % base)]

theorem length_signs {α : Type} (sign : Nat → α) (base width n : Nat) :
    (signs sign base width n).length = width := by
  induction width generalizing n with
  | zero => rfl
  | succ width ih => rw [signs, List.length_append, ih, List.length_singleton]

theorem compare_div_mod (base n m : Nat) :
    compare n m = (compare (n / base) (m / base)).then (compare (n % base) (m % base)) := by
  have hn := Nat.div_add_mod n base
  have hm := Nat.div_add_mod m base
  rcases Nat.lt_trichotomy (n / base) (m / base) with h | h | h
  · rw [Nat.compare_eq_lt.mpr h, Nat.compare_eq_lt.mpr (Nat.lt_of_div_lt_div h)]; rfl
  · rw [h] at hn
    rw [Nat.compare_eq_eq.mpr h, Ordering.eq_then, Nat.compare_eq_ite_lt, Nat.compare_eq_ite_lt]
    split
    · rw [if_pos (by omega)]
    · split
      · rw [if_neg (by omega), if_pos (by omega)]
      · rw [if_neg (by omega), if_neg (by omega)]
  · rw [Nat.compare_eq_gt.mpr h, Nat.compare_eq_gt.mpr (Nat.lt_of_div_lt_div h)]; rfl

theorem compare_signs {sign : Nat → α} {base width n m : Nat} (hbase : 0 < base)
    (hsign : ∀ d < base, ∀ e < base, compare (sign d) (sign e) = compare d e)
    (hn : n < Nat.pow base width) (hm : m < Nat.pow base width) :
    compare (signs sign base width n) (signs sign base width m) = compare n m := by
  induction width generalizing n m with
  | zero =>
    have hn : n < 1 := hn
    have hm : m < 1 := hm
    obtain rfl : n = m := by omega
    exact (Nat.compare_eq_eq.mpr rfl).symm
  | succ width ih =>
    have hn : n / base < Nat.pow base width := Nat.div_lt_of_lt_mul (by rwa [Nat.mul_comm])
    have hm : m / base < Nat.pow base width := Nat.div_lt_of_lt_mul (by rwa [Nat.mul_comm])
    rw [signs, signs, compare_append _ _ (by rw [length_signs, length_signs]), ih hn hm,
      List.compare_cons_cons, hsign _ (Nat.mod_lt n hbase) _ (Nat.mod_lt m hbase),
      compare_div_mod base n m, List.compare_nil_nil, Ordering.then_eq]

theorem fixedWidth_eq_signs (base width n : Nat) :
    fixedWidth base width n = signs digitChar base width n := by
  induction width generalizing n with
  | zero => rfl
  | succ width ih => rw [fixedWidth, signs, ih]

theorem length_fixedWidth (base width n : Nat) : (fixedWidth base width n).length = width := by
  rw [fixedWidth_eq_signs, length_signs]

/-! ### Texts -/

theorem compare_eq_lt_iff (xs ys : List Char) : compare xs ys = .lt ↔ xs < ys := by
  induction xs generalizing ys with
  | nil => cases ys <;> simp
  | cons x xs ih =>
    cases ys with
    | nil => simp
    | cons y ys =>
      have hchar : compare x y = .lt ↔ x < y := compareOfLessAndEq_eq_lt
      rw [List.compare_cons_cons, Ordering.then_eq_lt, hchar, Std.compare_eq_iff_eq, ih,
        List.cons_lt_cons_iff]

theorem compare_ofList (xs ys : List Char) :
    compare (String.ofList xs) (String.ofList ys) = compare xs ys := by
  have hlt : String.ofList xs < String.ofList ys ↔ compare xs ys = .lt := by
    rw [String.lt_iff, String.toList_ofList, String.toList_ofList, compare_eq_lt_iff]
  have heq : String.ofList xs = String.ofList ys ↔ compare xs ys = .eq := by
    rw [String.ofList_inj, Std.compare_eq_iff_eq]
  show (if _ then _ else if _ then _ else _) = _
  simp only [hlt, heq]
  cases compare xs ys <;> rfl

end Text

open Text

namespace Uuid

theorem hyphenate_cons_cons (n m : Nat) (rest : List Nat) (s : List Char) :
    hyphenate (n :: m :: rest) s = s.take n ++ ('-' :: hyphenate (m :: rest) (s.drop n)) := by
  rw [hyphenate, List.append_assoc, List.singleton_append]
  exact fun h => by cases h

theorem compare_hyphenate {groups : List Nat} {s t : List Char}
    (hs : s.length = groups.foldr (· + ·) 0) (ht : t.length = groups.foldr (· + ·) 0) :
    Ord.compare (hyphenate groups s) (hyphenate groups t) = Ord.compare s t := by
  induction groups generalizing s t with
  | nil =>
    rw [List.eq_nil_of_length_eq_zero hs, List.eq_nil_of_length_eq_zero ht]
    rfl
  | cons n rest ih =>
    simp only [List.foldr_cons] at hs ht
    cases rest with
    | nil =>
      have hs : s.length = n := hs
      have ht : t.length = n := ht
      rw [hyphenate, hyphenate, List.take_of_length_le (Nat.le_of_eq hs),
        List.take_of_length_le (Nat.le_of_eq ht)]
    | cons m rest =>
      have hhead : (s.take n).length = (t.take n).length := by simp only [List.length_take]; omega
      have hrest := ih (s := s.drop n) (t := t.drop n) (by rw [List.length_drop]; omega)
        (by rw [List.length_drop]; omega)
      rw [hyphenate_cons_cons, hyphenate_cons_cons, compare_append _ _ hhead, List.compare_cons_cons,
        hrest, Std.ReflOrd.compare_self, Ordering.eq_then, ← compare_append _ _ hhead,
        List.take_append_drop, List.take_append_drop]

variable (a b : Uuid)

theorem value_lt : a.value.toNat < Nat.pow 16 32 := a.value.isLt

theorem length_digits :
    (fixedWidth 16 32 a.value.toNat).length = groups.foldr (· + ·) 0 := by
  rw [length_fixedWidth]; rfl

theorem compare_text : Ord.compare (String.ofList a.text) (String.ofList b.text) = a.compare b := by
  have hsign : ∀ d < 16, ∀ e < 16, Ord.compare (digitChar d) (digitChar e) = Ord.compare d e := by
    decide
  rw [compare_ofList, text, text, compare_hyphenate a.length_digits b.length_digits,
    fixedWidth_eq_signs, fixedWidth_eq_signs, compare_signs (by decide) hsign a.value_lt b.value_lt]
  rfl

/-- The octets of a UUID, most significant first. -/
def octets : List UInt8 := signs Nat.toUInt8 256 16 a.value.toNat

theorem compare_octets : Ord.compare a.octets b.octets = a.compare b := by
  have hsign : ∀ d < 256, ∀ e < 256, Ord.compare d.toUInt8 e.toUInt8 = Ord.compare d e := by
    intro d hd e he
    have hd : d.toUInt8.toNat = d := Nat.mod_eq_of_lt hd
    have he : e.toUInt8.toNat = e := Nat.mod_eq_of_lt he
    show compareOfLessAndEq _ _ = compareOfLessAndEq _ _
    simp only [compareOfLessAndEq, UInt8.lt_iff_toNat_lt, ← UInt8.toNat_inj, hd, he]
  exact compare_signs (by decide) hsign a.value.isLt b.value.isLt

end Uuid

end Allowlist
