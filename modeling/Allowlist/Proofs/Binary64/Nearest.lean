import Allowlist.Binary64.Shortest
import Allowlist.Proofs.Binary64.Rounding
import Mathlib.Algebra.Order.Field.Power
import Mathlib.Tactic.FieldSimp
import Mathlib.Tactic.Linarith
import Mathlib.Tactic.NormNum
import Mathlib.Tactic.Positivity
import Mathlib.Tactic.Ring

/-! # What is rounded to a double

The interval of a double reaches half a unit of its last place to either side, and a quarter below a
power of two. A quotient in it has its own last place there as well, or in the next finer place if
it is below a power of two, and is rounded to the double in both cases: ends belong to the interval
if the coefficient is even, which is where ties go. -/

namespace Allowlist.Binary64

/-! ### Powers -/

theorem zpow_eq_div {b : ℚ} (hb : b ≠ 0) (e : Int) : b ^ e = b ^ e.toNat / b ^ (-e).toNat := by
  rw [← zpow_natCast, ← zpow_natCast, ← zpow_sub₀ hb]
  congr 1
  omega

theorem cast_twoPow (n : Nat) : (twoPow n : ℚ) = 2 ^ n := by
  rw [twoPow, Nat.pow_eq, Nat.cast_pow, Nat.cast_ofNat]

theorem cast_tenPow (n : Nat) : (tenPow n : ℚ) = 10 ^ n := by
  rw [tenPow, Nat.pow_eq, Nat.cast_pow, Nat.cast_ofNat]

theorem tenPow_pos (n : Nat) : 0 < tenPow n := Nat.pow_pos (by decide)

theorem two_zpow_eq_div (e : Int) : (2 : ℚ) ^ e = twoPow e.toNat / twoPow (-e).toNat := by
  rw [cast_twoPow, cast_twoPow, zpow_eq_div two_ne_zero]

theorem ten_zpow_eq_div (e : Int) : (10 : ℚ) ^ e = tenPow e.toNat / tenPow (-e).toNat := by
  rw [cast_tenPow, cast_tenPow, zpow_eq_div (by norm_num)]

theorem two_zpow_pos (e : Int) : (0 : ℚ) < 2 ^ e := zpow_pos two_pos e

theorem ten_zpow_pos (e : Int) : (0 : ℚ) < 10 ^ e := zpow_pos (by norm_num) e

theorem two_zpow_add (e : Int) (n : Nat) : (2 : ℚ) ^ (e + n) = 2 ^ n * 2 ^ e := by
  rw [zpow_add₀ two_ne_zero, zpow_natCast, mul_comm]

/-! ### Rounding a quotient -/

/-- A quotient is rounded to the number that it is at most half a unit away from, an even one if it
is halfway. -/
theorem roundHalfEven_eq {num den m : Nat} (hden : 0 < den) (hlow : 2 * (m * den) ≤ 2 * num + den)
    (hhigh : 2 * num ≤ 2 * (m * den) + den)
    (heven : m % 2 = 0 ∨ (2 * (m * den) < 2 * num + den ∧ 2 * num < 2 * (m * den) + den)) :
    roundHalfEven num den = m := by
  have hdm := Nat.div_add_mod' num den
  have hr := Nat.mod_lt num hden
  have hmul {a b : Nat} (h : a ≤ b) : a * den ≤ b * den := Nat.mul_le_mul_right den h
  -- the quotient without its fraction is the number or the one below it
  have hq : num / den = m ∨ num / den + 1 = m := by
    by_contra hne
    rcases Nat.lt_or_ge (num / den) m with hlt | hge
    · have := hmul (show num / den + 2 ≤ m by omega)
      rw [Nat.add_mul] at this
      omega
    · have := hmul (show m + 1 ≤ num / den by omega)
      rw [Nat.add_mul] at this
      omega
  unfold roundHalfEven
  simp only
  rcases hq with hq | hq
  · rw [hq] at hdm ⊢
    rw [if_neg (by omega)]
  · have hsplit : m * den = num / den * den + den := by rw [← hq, Nat.succ_mul]
    rw [if_pos (by omega), hq]

section
variable {num den : Nat} {e : Int}

/-- A quotient in units of the place `e`. -/
theorem shifted_eq (hden : den ≠ 0) :
    ((num * twoPow (-e).toNat : Nat) : ℚ) / ((den * twoPow e.toNat : Nat) : ℚ) =
      num / den / 2 ^ e := by
  have hdown : (twoPow (-e).toNat : ℚ) ≠ 0 := Nat.cast_ne_zero.mpr (Nat.ne_of_gt (twoPow_pos _))
  have hup : (twoPow e.toNat : ℚ) ≠ 0 := Nat.cast_ne_zero.mpr (Nat.ne_of_gt (twoPow_pos _))
  have hden : (den : ℚ) ≠ 0 := Nat.cast_ne_zero.mpr hden
  rw [two_zpow_eq_div, Nat.cast_mul, Nat.cast_mul]
  field_simp

theorem log2_bounds {n : Nat} (h : n ≠ 0) :
    (2 : ℚ) ^ (n.log2 : Int) ≤ n ∧ (n : ℚ) < 2 ^ ((n.log2 : Int) + 1) := by
  have hle : ((2 ^ n.log2 : Nat) : ℚ) ≤ n := Nat.cast_le.mpr (Nat.log2_self_le h)
  have hlt : (n : ℚ) < ((2 ^ (n.log2 + 1) : Nat) : ℚ) := Nat.cast_lt.mpr Nat.lt_log2_self
  rw [Nat.cast_pow, Nat.cast_ofNat] at hle hlt
  exact ⟨by rwa [zpow_natCast], by rwa [← Nat.cast_succ, zpow_natCast]⟩

/-- The logarithms of both parts tell that of a quotient up to one. -/
theorem quotient_log2_bounds (hnum : num ≠ 0) (hden : den ≠ 0) :
    (2 : ℚ) ^ ((num.log2 : Int) - den.log2 - 1) < num / den ∧
      (num / den : ℚ) < 2 ^ ((num.log2 : Int) - den.log2 + 1) := by
  have hpos : (0 : ℚ) < den := Nat.cast_pos.mpr (Nat.pos_of_ne_zero hden)
  obtain ⟨hnumLow, hnumHigh⟩ := log2_bounds hnum
  obtain ⟨hdenLow, hdenHigh⟩ := log2_bounds hden
  constructor
  · rw [lt_div_iff₀ hpos]
    calc (2 : ℚ) ^ ((num.log2 : Int) - den.log2 - 1) * den
        < 2 ^ ((num.log2 : Int) - den.log2 - 1) * 2 ^ ((den.log2 : Int) + 1) := by gcongr
      _ = 2 ^ (num.log2 : Int) := by rw [← zpow_add₀ two_ne_zero]; congr 1; omega
      _ ≤ num := hnumLow
  · rw [div_lt_iff₀ hpos]
    calc (num : ℚ) < 2 ^ ((num.log2 : Int) + 1) := hnumHigh
      _ = 2 ^ ((num.log2 : Int) - den.log2 + 1) * 2 ^ (den.log2 : Int) := by
        rw [← zpow_add₀ two_ne_zero]; congr 1; omega
      _ ≤ 2 ^ ((num.log2 : Int) - den.log2 + 1) * den := by gcongr

/-- The last of 53 binary digits, or the last place of all. -/
theorem exists_lastPlace (hnum : num ≠ 0) (hden : den ≠ 0) :
    ∃ p : Int, lastPlace num den = max p (-1074) ∧ (2 : ℚ) ^ (p + 52) ≤ num / den ∧
      (num / den : ℚ) < 2 ^ (p + 53) := by
  obtain ⟨hlow, hhigh⟩ := quotient_log2_bounds hnum hden
  set k : Int := num.log2 - den.log2 - 52 with hk
  have hcoarse : num * twoPow (-k).toNat < implicitBit * (den * twoPow k.toNat) ↔
      (num / den : ℚ) < 2 ^ (k + 52) := by
    have hunits : (0 : ℚ) < (den * twoPow k.toNat : Nat) :=
      Nat.cast_pos.mpr (Nat.mul_pos (Nat.pos_of_ne_zero hden) (twoPow_pos _))
    have himplicit : ((implicitBit : Nat) : ℚ) = 2 ^ 52 := by norm_num [implicitBit]
    have hcast (a b : Nat) : a < b ↔ (a : ℚ) < b := Nat.cast_lt.symm
    rw [hcast, Nat.cast_mul implicitBit, ← div_lt_iff₀ hunits, shifted_eq hden, himplicit,
      div_lt_iff₀ (two_zpow_pos k), show k + 52 = k + (52 : Nat) from rfl, two_zpow_add]
  unfold lastPlace
  simp only [← hk, hcoarse]
  split
  · next h =>
    refine ⟨k - 1, rfl, ?_, ?_⟩
    · rw [show k - 1 + 52 = (num.log2 : Int) - den.log2 - 1 by omega]
      exact hlow.le
    · rwa [show k - 1 + 53 = k + 52 by omega]
  · next h =>
    refine ⟨k, rfl, not_lt.mp h, ?_⟩
    rwa [show k + 53 = (num.log2 : Int) - den.log2 + 1 by omega]

theorem lastPlace_eq (hnum : num ≠ 0) (hden : den ≠ 0) (he : -1074 ≤ e)
    (htop : (num / den : ℚ) < 2 ^ (e + 53)) (hbottom : e = -1074 ∨ 2 ^ (e + 52) ≤ (num / den : ℚ)) :
    lastPlace num den = e := by
  have hlt {a b : Int} (h : (2 : ℚ) ^ a < 2 ^ b) : a < b :=
    (zpow_lt_zpow_iff_right₀ one_lt_two).mp h
  obtain ⟨p, hp, hlow, hhigh⟩ := exists_lastPlace hnum hden
  have hpe : p + 52 < e + 53 := hlt (hlow.trans_lt htop)
  rw [hp]
  rcases hbottom with rfl | hbottom
  · omega
  · have hep : e + 52 < p + 53 := hlt (hbottom.trans_lt hhigh)
    omega

/-- A quotient is rounded to the coefficient that it is at most half a unit of its last place away
from. -/
theorem nearest_eq {m : Nat} (hnum : num ≠ 0) (hden : den ≠ 0) (he : -1074 ≤ e)
    (htop : (num / den : ℚ) < 2 ^ (e + 53)) (hbottom : e = -1074 ∨ 2 ^ (e + 52) ≤ (num / den : ℚ))
    (hlow : (m - 1 / 2) * 2 ^ e ≤ (num / den : ℚ)) (hhigh : (num / den : ℚ) ≤ (m + 1 / 2) * 2 ^ e)
    (heven : m % 2 = 0 ∨
      ((m - 1 / 2) * 2 ^ e < (num / den : ℚ) ∧ (num / den : ℚ) < (m + 1 / 2) * 2 ^ e)) :
    nearest num den = min infinity ((e + 1074).toNat * implicitBit + m) := by
  have hunit : 0 < den * twoPow e.toNat := Nat.mul_pos (Nat.pos_of_ne_zero hden) (twoPow_pos _)
  have hround : roundHalfEven (num * twoPow (-e).toNat) (den * twoPow e.toNat) = m := by
    have hunits : ((num * twoPow (-e).toNat : Nat) : ℚ) / (den * twoPow e.toNat : Nat) =
        num / den / 2 ^ e := shifted_eq hden
    have hpos : (0 : ℚ) < (den * twoPow e.toNat : Nat) := Nat.cast_pos.mpr hunit
    generalize num * twoPow (-e).toNat = n at *
    generalize den * twoPow e.toNat = d at *
    rw [← le_div_iff₀ (two_zpow_pos e), ← hunits, le_div_iff₀ hpos] at hlow
    rw [← div_le_iff₀ (two_zpow_pos e), ← hunits, div_le_iff₀ hpos] at hhigh
    rw [← lt_div_iff₀ (two_zpow_pos e), ← div_lt_iff₀ (two_zpow_pos e), ← hunits, lt_div_iff₀ hpos,
      div_lt_iff₀ hpos] at heven
    refine roundHalfEven_eq hunit ?_ ?_ (heven.imp_right fun h => ⟨?_, ?_⟩)
    · exact_mod_cast (by linarith : (2 * (m * d) : ℚ) ≤ 2 * n + d)
    · exact_mod_cast (by linarith : (2 * n : ℚ) ≤ 2 * (m * d) + d)
    · exact_mod_cast (by linarith [h.1] : (2 * (m * d) : ℚ) < 2 * n + d)
    · exact_mod_cast (by linarith [h.2] : (2 * n : ℚ) < 2 * (m * d) + d)
  unfold nearest
  rw [if_neg hnum]
  simp only [lastPlace_eq hnum hden he htop hbottom, hround]

end

/-! ### The interval of a double -/

/-- A coefficient and a power of two as they make up a finite magnitude above zero. -/
structure IsParts (magnitude m : Nat) (q : Int) : Prop where
  pos : 0 < m
  lt : m < 2 * implicitBit
  least : -1074 ≤ q
  full : q = -1074 ∨ implicitBit ≤ m
  eq : (q + 1074).toNat * implicitBit + m = magnitude

theorem exists_parts {magnitude : Nat} (hpos : 0 < magnitude) :
    ∃ m q, parts magnitude = (m, q) ∧ IsParts magnitude m q := by
  refine ⟨(parts magnitude).1, (parts magnitude).2, rfl, ?_⟩
  unfold parts implicitBit
  split
  · next h => exact ⟨hpos, by simp only [implicitBit]; omega, by simp, .inl rfl, by simp⟩
  · next h => constructor <;> simp only [implicitBit] <;> omega

namespace IsParts
variable {magnitude m : Nat} {q : Int}

theorem cast_lt (h : IsParts magnitude m q) : (m : ℚ) + 1 ≤ 2 ^ 53 := by
  have hlt : m + 1 ≤ 2 ^ 53 := h.lt
  exact_mod_cast hlt

theorem exponent_le (h : IsParts magnitude m q) (hfinite : magnitude < infinity) : q ≤ 971 := by
  obtain ⟨-, -, -, hfull, heq⟩ := h
  unfold infinity implicitBit at *
  omega

end IsParts

namespace Interval

/-- A quarter of a unit, in which the interval is given. -/
def unit (i : Interval) : ℚ := i.num / i.den

/-- A number between the ends, or one of them if they belong to the interval. -/
structure Contains (i : Interval) (v : ℚ) : Prop where
  low : i.low * i.unit ≤ v
  high : v ≤ i.high * i.unit
  inside : i.closed = true ∨ (i.low * i.unit < v ∧ v < i.high * i.unit)

end Interval

variable {magnitude num den m : Nat} {q : Int} {v : ℚ}

/-- How far the interval reaches below a double, in units of its last place. -/
def reachBelow (m : Nat) (q : Int) : ℚ := if m = implicitBit ∧ -1074 < q then 1 / 4 else 1 / 2

theorem reachBelow_bounds (m : Nat) (q : Int) : 1 / 4 ≤ reachBelow m q ∧ reachBelow m q ≤ 1 / 2 := by
  unfold reachBelow
  split <;> norm_num

theorem unit_interval (h : parts magnitude = (m, q)) : 4 * (interval magnitude).unit = 2 ^ q := by
  have hneg : 2 - q = -(q - 2) := by omega
  simp only [Interval.unit, interval, h, hneg, ← two_zpow_eq_div]
  rw [show q = q - 2 + (2 : Nat) by omega, two_zpow_add]
  norm_num

/-- The interval in units of the last place of the double. -/
theorem contains_interval (h : parts magnitude = (m, q)) (hpos : 0 < m) :
    (interval magnitude).Contains v ↔
      (m - reachBelow m q) * 2 ^ q ≤ v ∧ v ≤ (m + 1 / 2) * 2 ^ q ∧
        (m % 2 = 0 ∨ ((m - reachBelow m q) * 2 ^ q < v ∧ v < (m + 1 / 2) * 2 ^ q)) := by
  have hlow : ((interval magnitude).low : ℚ) = 4 * (m - reachBelow m q) := by
    simp only [interval, h, reachBelow]
    rw [Nat.cast_sub (by split <;> omega)]
    push_cast
    split <;> ring
  have hhigh : ((interval magnitude).high : ℚ) = 4 * (m + 1 / 2) := by
    simp only [interval, h]
    push_cast
    ring
  have hclosed : (interval magnitude).closed = true ↔ m % 2 = 0 := by
    simp only [interval, h, decide_eq_true_eq]
  have hends (x : ℚ) : 4 * x * (interval magnitude).unit = x * 2 ^ q := by
    rw [← unit_interval h]; ring
  rw [← hends, ← hends, ← hlow, ← hhigh, ← hclosed]
  constructor
  · rintro ⟨hlow, hhigh, hinside⟩
    exact ⟨hlow, hhigh, hinside⟩
  · rintro ⟨hlow, hhigh, hinside⟩
    exact ⟨hlow, hhigh, hinside⟩

/-- Less than a quarter below a power of two there is one digit more in the next finer place, and it
is rounded up to the power. -/
theorem nearest_below_power (hnum : num ≠ 0) (hden : den ≠ 0) (hq : -1074 < q)
    (hlow : (2 ^ 52 - 1 / 4) * 2 ^ q ≤ (num / den : ℚ)) (hhigh : (num / den : ℚ) < 2 ^ 52 * 2 ^ q) :
    nearest num den = min infinity ((q + 1074).toNat * implicitBit + implicitBit) := by
  have htwice : ((2 * implicitBit : Nat) : ℚ) = 2 ^ 53 := by norm_num [implicitBit]
  have hdouble : (2 : ℚ) ^ q = 2 * 2 ^ (q - 1) := by
    rw [show q = q - 1 + (1 : Nat) by omega, two_zpow_add]; norm_num
  have htop : (2 : ℚ) ^ (q - 1 + 53) = 2 ^ 53 * 2 ^ (q - 1) := two_zpow_add (q - 1) 53
  have hbottom : (2 : ℚ) ^ (q - 1 + 52) = 2 ^ 52 * 2 ^ (q - 1) := two_zpow_add (q - 1) 52
  have hu := two_zpow_pos (q - 1)
  rw [hdouble] at hlow hhigh
  rw [nearest_eq (m := 2 * implicitBit) (e := q - 1) hnum hden (by omega)]
  · rw [show (q + 1074).toNat = (q - 1 + 1074).toNat + 1 by omega, Nat.two_mul, Nat.add_one_mul,
      Nat.add_assoc]
  · rw [htop]; linarith
  · rw [hbottom]; exact .inr (by linarith)
  · rw [htwice]; linarith
  · rw [htwice]; linarith
  · exact .inl rfl

/-- What lies in the interval of a finite double is rounded to it. -/
theorem nearest_of_contains (hpos : 0 < magnitude) (hfinite : magnitude < infinity) (hden : den ≠ 0)
    (h : (interval magnitude).Contains (num / den)) : nearest num den = magnitude := by
  obtain ⟨m, q, hparts, his⟩ := exists_parts hpos
  obtain ⟨hlow, hhigh, heven⟩ := (contains_interval hparts his.pos).mp h
  obtain ⟨hquarter, hhalf⟩ := reachBelow_bounds m q
  have hu := two_zpow_pos q
  have hplace (n : Nat) : (2 : ℚ) ^ (q + n) = 2 ^ n * 2 ^ q := two_zpow_add q n
  have hm : (1 : ℚ) ≤ m := Nat.one_le_cast.mpr his.pos
  have hnum : num ≠ 0 := by
    rintro rfl
    have : 0 < (m - reachBelow m q) * 2 ^ q := mul_pos (by linarith) hu
    simp only [Nat.cast_zero, zero_div] at hlow
    linarith
  by_cases hbottom : q = -1074 ∨ 2 ^ (q + 52) ≤ (num / den : ℚ)
  · have hbelow : (m - 1 / 2) * 2 ^ q ≤ (m - reachBelow m q) * 2 ^ q := by gcongr
    have htop : (num / den : ℚ) < 2 ^ (q + 53) := by
      refine hhigh.trans_lt ?_
      rw [show q + 53 = q + (53 : Nat) from rfl, hplace]
      exact mul_lt_mul_of_pos_right (by linarith [his.cast_lt]) hu
    rw [nearest_eq hnum hden his.least htop hbottom (hbelow.trans hlow) hhigh
      (heven.imp_right fun h => ⟨hbelow.trans_lt h.1, h.2⟩), his.eq, Nat.min_eq_right hfinite.le]
  · rw [not_or, not_le] at hbottom
    obtain ⟨hq, hlt⟩ := hbottom
    have hleast : -1074 < q := lt_of_le_of_ne his.least (Ne.symm hq)
    rw [show q + 52 = q + (52 : Nat) from rfl, hplace] at hlt
    -- the coefficient is the least one of its place
    have hpower : m = implicitBit := by
      have hlt : (m : ℚ) - reachBelow m q < 2 ^ 52 := lt_of_mul_lt_mul_right (hlow.trans_lt hlt) hu.le
      have hle : m < 2 ^ 52 + 1 := by exact_mod_cast (by linarith : (m : ℚ) < 2 ^ 52 + 1)
      exact Nat.le_antisymm (Nat.lt_succ_iff.mp hle) (his.full.resolve_left hq)
    have hcast : (m : ℚ) = 2 ^ 52 := by rw [hpower]; norm_num [implicitBit]
    rw [hcast, reachBelow, if_pos ⟨hpower, hleast⟩] at hlow
    have heq := his.eq
    rw [hpower] at heq
    rw [nearest_below_power hnum hden hleast hlow hlt, heq, Nat.min_eq_right hfinite.le]

end Allowlist.Binary64
