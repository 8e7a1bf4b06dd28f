import Allowlist.Binary64.Basic

/-! # Rounding integers keeps their order

A natural number with `k + 1` binary digits is rounded to 53 of them, so its double has the
exponent of `k` and a coefficient between `implicitBit` and twice that. Where the coefficient is
largest the double is the least one of the next exponent. So a greater integer never becomes a
lesser double; different ones may become the same. -/

namespace Allowlist.Binary64

/-! ### Rounding a quotient -/

theorem roundHalfEven_mono {num num' : Nat} (den : Nat) (h : num ≤ num') :
    roundHalfEven num den ≤ roundHalfEven num' den := by
  have hq : num / den ≤ num' / den := Nat.div_le_div_right h
  have hdm := Nat.div_add_mod num den
  have hdm' := Nat.div_add_mod num' den
  unfold roundHalfEven
  rcases Nat.eq_or_lt_of_le hq with heq | hlt
  · have hr : num % den ≤ num' % den := by rw [heq] at hdm; omega
    rw [← heq]
    simp only
    split <;> split <;> omega
  · simp only
    split <;> split <;> omega

theorem roundHalfEven_mul {den : Nat} (hden : 0 < den) (c : Nat) :
    roundHalfEven (c * den) den = c := by
  have hq : c * den / den = c := Nat.mul_div_cancel c hden
  have hr : c * den % den = 0 := Nat.mul_mod_left c den
  unfold roundHalfEven
  simp only [hq, hr]
  rw [if_neg (by omega)]

theorem le_roundHalfEven {num den c : Nat} (hden : 0 < den) (h : c * den ≤ num) :
    c ≤ roundHalfEven num den := by
  have hle := roundHalfEven_mono den h
  rwa [roundHalfEven_mul hden] at hle

theorem roundHalfEven_le {num den c : Nat} (hden : 0 < den) (h : num ≤ c * den) :
    roundHalfEven num den ≤ c := by
  have hle := roundHalfEven_mono den h
  rwa [roundHalfEven_mul hden] at hle

/-! ### Rounding a natural number -/

theorem twoPow_pos (n : Nat) : 0 < twoPow n := Nat.two_pow_pos n

theorem twoPow_add (n m : Nat) : twoPow (n + m) = twoPow n * twoPow m := Nat.pow_add 2 n m

theorem implicitBit_eq : implicitBit = twoPow 52 := rfl

theorem twoPow_log2_le {n : Nat} (h : n ≠ 0) : twoPow n.log2 ≤ n := Nat.log2_self_le h

theorem lt_twoPow_log2 (n : Nat) : n < twoPow (n.log2 + 1) := Nat.lt_log2_self

/-- The coefficient of the double nearest to a natural number, before it is carried over. -/
def coefficient (n : Nat) : Nat :=
  roundHalfEven (n * twoPow (52 - n.log2)) (twoPow (n.log2 - 52))

/-- Shifted to 53 binary digits a number lies between two powers of two. -/
theorem shifted_bounds {n : Nat} (h : n ≠ 0) :
    implicitBit * twoPow (n.log2 - 52) ≤ n * twoPow (52 - n.log2) ∧
      n * twoPow (52 - n.log2) < 2 * implicitBit * twoPow (n.log2 - 52) := by
  have hlow := twoPow_log2_le h
  have hhigh := lt_twoPow_log2 n
  have hdouble : 2 * implicitBit = twoPow 53 := rfl
  rcases Nat.le_total n.log2 52 with hk | hk
  · have hzero : n.log2 - 52 = 0 := by omega
    have hsum : twoPow 52 = twoPow n.log2 * twoPow (52 - n.log2) := by
      rw [← twoPow_add]; congr 1; omega
    have hsum' : twoPow 53 = twoPow (n.log2 + 1) * twoPow (52 - n.log2) := by
      rw [← twoPow_add]; congr 1; omega
    rw [hzero, hdouble, implicitBit_eq, hsum, hsum', show twoPow 0 = 1 from rfl, Nat.mul_one,
      Nat.mul_one]
    exact ⟨Nat.mul_le_mul_right _ hlow, Nat.mul_lt_mul_of_pos_right hhigh (twoPow_pos _)⟩
  · have hzero : 52 - n.log2 = 0 := by omega
    rw [hzero, hdouble, implicitBit_eq, show twoPow 0 = 1 from rfl, Nat.mul_one, ← twoPow_add,
      ← twoPow_add, show 52 + (n.log2 - 52) = n.log2 by omega,
      show 53 + (n.log2 - 52) = n.log2 + 1 by omega]
    exact ⟨hlow, hhigh⟩

theorem coefficient_bounds {n : Nat} (h : n ≠ 0) :
    implicitBit ≤ coefficient n ∧ coefficient n ≤ 2 * implicitBit :=
  ⟨le_roundHalfEven (twoPow_pos _) (shifted_bounds h).1,
    roundHalfEven_le (twoPow_pos _) (Nat.le_of_lt (shifted_bounds h).2)⟩

theorem lastPlace_one {n : Nat} (h : n ≠ 0) : lastPlace n 1 = (n.log2 : Int) - 52 := by
  have hlog : (1 : Nat).log2 = 0 := rfl
  have hneg : (-((n.log2 : Int) - 52)).toNat = 52 - n.log2 := by omega
  have hpos : ((n.log2 : Int) - 52).toNat = n.log2 - 52 := by omega
  have hfine : ¬n * twoPow (52 - n.log2) < implicitBit * (1 * twoPow (n.log2 - 52)) := by
    rw [Nat.one_mul]; exact Nat.not_lt.mpr (shifted_bounds h).1
  unfold lastPlace
  simp only [hlog, Int.natCast_zero, Int.sub_zero, hneg, hpos, hfine, if_false]
  omega

theorem nearest_one {n : Nat} (h : n ≠ 0) :
    nearest n 1 = min infinity ((n.log2 + 1022) * implicitBit + coefficient n) := by
  have hneg : (-((n.log2 : Int) - 52)).toNat = 52 - n.log2 := by omega
  have hpos : ((n.log2 : Int) - 52).toNat = n.log2 - 52 := by omega
  have hexp : ((n.log2 : Int) - 52 + 1074).toNat = n.log2 + 1022 := by omega
  unfold nearest
  rw [if_neg h]
  simp only [lastPlace_one h, hneg, hpos, hexp, Nat.one_mul, coefficient]

theorem nearest_one_le_infinity (n : Nat) : nearest n 1 ≤ infinity := by
  unfold nearest
  split
  · exact Nat.zero_le _
  · exact Nat.min_le_left ..

theorem log2_mono {n m : Nat} (hn : n ≠ 0) (h : n ≤ m) : n.log2 ≤ m.log2 := by
  have hlow := twoPow_log2_le hn
  have hhigh := lt_twoPow_log2 m
  exact Nat.le_of_lt_succ ((Nat.pow_lt_pow_iff_right (by decide)).mp
    (Nat.lt_of_le_of_lt (Nat.le_trans hlow h) hhigh))

theorem nearest_one_mono {n m : Nat} (h : n ≤ m) : nearest n 1 ≤ nearest m 1 := by
  rcases Nat.eq_zero_or_pos n with rfl | hn
  · exact Nat.zero_le _
  have hn : n ≠ 0 := Nat.ne_of_gt hn
  have hm : m ≠ 0 := by omega
  have hlog := log2_mono hn h
  obtain ⟨-, hupper⟩ := coefficient_bounds hn
  obtain ⟨hlower, -⟩ := coefficient_bounds hm
  rw [nearest_one hn, nearest_one hm]
  refine Nat.le_min.mpr ⟨Nat.min_le_left .., Nat.le_trans (Nat.min_le_right ..) ?_⟩
  rcases Nat.eq_or_lt_of_le hlog with heq | hlt
  · have hcoefficient : coefficient n ≤ coefficient m := by
      unfold coefficient
      rw [heq]
      exact roundHalfEven_mono _ (Nat.mul_le_mul_right _ h)
    rw [heq]
    omega
  · have hstep : (n.log2 + 1 + 1022) * implicitBit ≤ (m.log2 + 1022) * implicitBit :=
      Nat.mul_le_mul_right _ (by omega)
    have hsplit : (n.log2 + 1 + 1022) * implicitBit = (n.log2 + 1022) * implicitBit + implicitBit := by
      rw [show n.log2 + 1 + 1022 = n.log2 + 1022 + 1 by omega, Nat.succ_mul]
    omega

/-! ### Rounding an integer -/

theorem bits_ofInt (i : Int) : (ofInt i).bits.toNat =
    (if i < 0 then signBit else 0) + nearest i.natAbs 1 := by
  have hle := nearest_one_le_infinity i.natAbs
  have hinfinity : infinity < signBit := by decide
  have hword : signBit + signBit = 2 ^ 64 := by decide
  unfold ofInt ofMagnitude
  by_cases h : i < 0
  · simp only [h, decide_true, if_true]
    exact UInt64.toNat_ofNat_of_lt' (by simp only [UInt64.size]; omega)
  · simp only [h, decide_false, Bool.false_eq_true, if_false, Nat.zero_add]
    exact UInt64.toNat_ofNat_of_lt' (by simp only [UInt64.size]; omega)

theorem magnitude_ofInt (i : Int) : (ofInt i).magnitude = nearest i.natAbs 1 := by
  have hle := nearest_one_le_infinity i.natAbs
  have hinfinity : infinity < signBit := by decide
  unfold magnitude
  rw [bits_ofInt]
  split
  · rw [Nat.add_mod_left, Nat.mod_eq_of_lt (by omega)]
  · rw [Nat.zero_add, Nat.mod_eq_of_lt (by omega)]

theorem isNegative_ofInt (i : Int) : (ofInt i).isNegative = decide (i < 0) := by
  have hle := nearest_one_le_infinity i.natAbs
  have hinfinity : infinity < signBit := by decide
  unfold isNegative
  rw [bits_ofInt, decide_eq_decide]
  split <;> omega

theorem isNaN_ofInt (i : Int) : (ofInt i).isNaN = false := by
  rw [isNaN, magnitude_ofInt]
  exact decide_eq_false (Nat.not_lt.mpr (nearest_one_le_infinity _))

theorem position_ofInt (i : Int) :
    (ofInt i).position = if i < 0 then -(nearest i.natAbs 1 : Int) else nearest i.natAbs 1 := by
  rw [position, isNegative_ofInt, magnitude_ofInt]
  simp only [decide_eq_true_eq]

/-- A greater integer has no lesser double. -/
theorem position_ofInt_mono {i j : Int} (h : i ≤ j) : (ofInt i).position ≤ (ofInt j).position := by
  rw [position_ofInt, position_ofInt]
  by_cases hi : i < 0
  · by_cases hj : j < 0
    · have hle := nearest_one_mono (show j.natAbs ≤ i.natAbs by omega)
      rw [if_pos hi, if_pos hj]; omega
    · rw [if_pos hi, if_neg hj]; omega
  · have hle := nearest_one_mono (show i.natAbs ≤ j.natAbs by omega)
    rw [if_neg hi, if_neg (by omega)]; omega

end Allowlist.Binary64
