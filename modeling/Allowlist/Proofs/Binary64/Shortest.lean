import Allowlist.Proofs.Binary64.Nearest

/-! # The shortest decimal is rounded back

Whatever grid the search stops on, it returns a decimal of the interval. Behind its last grid it
takes the decimal below the value on the next one, and that lies in the interval as well: the
leading digit is not set too high, since 30103 / 100000 exceeds the decimal logarithm of two so
little that it cannot add up over the exponents of doubles, and so 17 places behind it a decimal is
a tenth of a unit of the last binary place or less. -/

namespace Allowlist.Binary64

/-! ### Decimal and binary exponents -/

/-- A power of ten is at most twice the power of two that its exponent is estimated from, where the
estimate is too high by less than one part in `den`. -/
theorem ten_zpow_le {num den : Nat} (hden : den ≠ 0) (hunder : 2 ^ den ≤ 10 ^ num)
    (hover : 10 ^ num ≤ 2 ^ (den + 1)) {k log : Int} (hk : den * k ≤ num * log) (hlog : log ≤ den) :
    (10 : ℚ) ^ k ≤ 2 ^ (log + 1) := by
  have hunder : (2 : ℚ) ^ den ≤ 10 ^ num := by exact_mod_cast hunder
  have hover : (10 : ℚ) ^ num ≤ 2 ^ (den + 1) := by exact_mod_cast hover
  have hmono {a b : Int} (h : a ≤ b) : (2 : ℚ) ^ a ≤ 2 ^ b := zpow_le_zpow_right₀ one_le_two h
  -- both sides are compared to the power `den`
  refine le_of_pow_le_pow_left₀ hden (two_zpow_pos _).le ?_
  rw [← zpow_natCast, ← zpow_natCast, ← zpow_mul, ← zpow_mul, Int.mul_comm k, Int.add_mul,
    Int.one_mul]
  refine (zpow_le_zpow_right₀ (by norm_num) hk).trans ?_
  rcases Int.le_total 0 log with hpos | hneg
  · lift log to Nat using hpos
    calc (10 : ℚ) ^ ((num : Int) * log) = (10 ^ num) ^ log := by
          rw [zpow_mul, zpow_natCast, zpow_natCast]
      _ ≤ (2 ^ (den + 1)) ^ log := pow_le_pow_left₀ (by positivity) hover log
      _ = 2 ^ ((log : Int) * den + log) := by
          rw [← pow_mul, ← zpow_natCast]; push_cast; congr 1; ring
      _ ≤ 2 ^ ((log : Int) * den + den) := hmono (by omega)
  · obtain ⟨n, rfl⟩ : ∃ n : Nat, log = -n := ⟨(-log).toNat, by omega⟩
    calc (10 : ℚ) ^ ((num : Int) * -n) = ((10 ^ num) ^ n)⁻¹ := by
          rw [zpow_mul, zpow_natCast, zpow_neg, zpow_natCast]
      _ ≤ ((2 ^ den) ^ n)⁻¹ := by gcongr
      _ = 2 ^ (-(n : Int) * den) := by
          rw [← pow_mul, ← zpow_natCast, ← zpow_neg]; push_cast; congr 1; ring
      _ ≤ 2 ^ (-(n : Int) * den + den) := hmono (by omega)

namespace Interval
variable {i : Interval} {c : Nat} {e : Int} {tie : Tie}

/-! ### One grid -/

theorem holds_iff (hden : 0 < i.den) : i.holds c e = true ↔ i.Contains (c * 10 ^ e) := by
  have hden : (0 : ℚ) < i.den := Nat.cast_pos.mpr hden
  have hten : (0 : ℚ) < tenPow (-e).toNat := Nat.cast_pos.mpr (tenPow_pos _)
  have hdecimal : (c * 10 ^ e : ℚ) = c * tenPow e.toNat / tenPow (-e).toNat := by
    rw [ten_zpow_eq_div, mul_div_assoc]
  have hend (n : Nat) : (n * i.unit : ℚ) = n * i.num / i.den := (mul_div_assoc ..).symm
  have hle (n : Nat) : n * i.unit ≤ c * 10 ^ e ↔
      n * i.num * tenPow (-e).toNat ≤ c * tenPow e.toNat * i.den := by
    rw [hdecimal, hend, div_le_div_iff₀ hden hten]
    exact_mod_cast Iff.rfl
  have hge (n : Nat) : c * 10 ^ e ≤ n * i.unit ↔
      c * tenPow e.toNat * i.den ≤ n * i.num * tenPow (-e).toNat := by
    rw [hdecimal, hend, div_le_div_iff₀ hten hden]
    exact_mod_cast Iff.rfl
  have hlt (n : Nat) := not_congr (hge n)
  have hgt (n : Nat) := not_congr (hle n)
  simp only [not_le] at hlt hgt
  unfold holds
  simp only
  split
  · next hclosed =>
    rw [decide_eq_true_eq, ← hle, ← hge]
    exact ⟨fun ⟨hlow, hhigh⟩ => ⟨hlow, hhigh, .inl hclosed⟩, fun h => ⟨h.low, h.high⟩⟩
  · next hopen =>
    rw [decide_eq_true_eq, ← hlt, ← hgt]
    exact ⟨fun h => ⟨h.1.le, h.2.le, .inr h⟩, fun h => h.inside.resolve_left hopen⟩

theorem holds_of_closest? (h : i.closest? tie e = some c) : i.holds c e = true := by
  have hif {c : Nat} (hlow : i.holds c e = true) (hhigh : i.holds (c + 1) e = true) (up : Bool) :
      i.holds (if up then c + 1 else c) e = true := by
    cases up
    · exact hlow
    · exact hhigh
  unfold closest? at h
  simp only at h
  split at h
  · next hlow hhigh => exact Option.some.inj h ▸ hif ((Bool.and_eq_true ..).mp hlow).2 hhigh _
  · next hlow hhigh => exact Option.some.inj h ▸ ((Bool.and_eq_true ..).mp hlow).2
  · next hlow hhigh => exact Option.some.inj h ▸ hhigh
  · cases h

/-! ### The search -/

/-- The coefficient of the decimal below the value on a grid. -/
def floor (i : Interval) (e : Int) : Nat :=
  i.value * i.num * tenPow (-e).toNat / (tenPow e.toNat * i.den)

theorem floor_bounds (hden : 0 < i.den) (e : Int) :
    (i.floor e : ℚ) * 10 ^ e ≤ i.value * i.unit ∧ i.value * i.unit < (i.floor e + 1) * 10 ^ e := by
  have hdenPos : (0 : ℚ) < i.den := Nat.cast_pos.mpr hden
  have hten : (0 : ℚ) < tenPow (-e).toNat := Nat.cast_pos.mpr (tenPow_pos _)
  have hgrid : 0 < tenPow e.toNat * i.den := Nat.mul_pos (tenPow_pos _) hden
  have hle := Nat.div_mul_le_self (i.value * i.num * tenPow (-e).toNat) (tenPow e.toNat * i.den)
  have hlt := Nat.lt_mul_of_div_lt (Nat.lt_succ_self (i.floor e)) hgrid
  have hvalue : (i.value * i.unit : ℚ) = i.value * i.num / i.den := (mul_div_assoc ..).symm
  rw [hvalue, ten_zpow_eq_div, ← mul_div_assoc, ← mul_div_assoc, div_le_div_iff₀ hten hdenPos,
    div_lt_div_iff₀ hdenPos hten, mul_assoc, mul_assoc (_ + 1 : ℚ)]
  constructor
  · exact_mod_cast hle
  · exact_mod_cast hlt

theorem holds_search {grids : Nat} (hlast : i.holds (i.floor (e - grids)) (e - grids) = true) :
    i.holds (i.search tie grids e).coefficient (i.search tie grids e).exponent = true := by
  induction grids generalizing e with
  | zero => simpa [search, floor] using hlast
  | succ grids ih =>
    unfold search
    split
    · next c hc => exact holds_of_closest? hc
    · refine ih ?_
      rwa [show e - 1 - (grids : Int) = e - (grids + 1 : Nat) by omega]

/-! ### The leading digit -/

theorem reaches_iff (hden : 0 < i.den) (k : Int) :
    i.reaches k = true ↔ (10 : ℚ) ^ k ≤ i.value * i.unit := by
  have hdenPos : (0 : ℚ) < i.den := Nat.cast_pos.mpr hden
  have hten : (0 : ℚ) < tenPow (-k).toNat := Nat.cast_pos.mpr (tenPow_pos _)
  rw [reaches, decide_eq_true_eq, ten_zpow_eq_div, unit, ← mul_div_assoc, div_le_div_iff₀ hten hdenPos]
  exact_mod_cast Iff.rfl

/-- The leading digit is not set above the value. -/
theorem leading_le (hden : 0 < i.den) (hpos : 0 < i.value * i.unit)
    (hlimit : i.value * i.unit < 2 ^ (1024 : Int)) : (10 : ℚ) ^ i.leading ≤ i.value * i.unit := by
  have hquotient : (i.value * i.unit : ℚ) = (i.value * i.num : Nat) / i.den := by
    rw [unit, ← mul_div_assoc, Nat.cast_mul]
  have hnum : i.value * i.num ≠ 0 := by
    intro hzero
    rw [hquotient, hzero, Nat.cast_zero, zero_div] at hpos
    exact lt_irrefl 0 hpos
  obtain ⟨hlow, -⟩ := quotient_log2_bounds hnum hden.ne'
  rw [← hquotient] at hlow
  set log : Int := (i.value * i.num).log2 - i.den.log2 with hlog
  have hlogLt : log - 1 < 1024 := (zpow_lt_zpow_iff_right₀ one_lt_two).mp (hlow.trans hlimit)
  unfold leading
  simp only [← hlog]
  set k : Int := (log * 30103).fdiv 100000 with hk
  have hestimate : 100000 * k ≤ 30103 * log := by
    rw [hk, Int.fdiv_eq_ediv_of_nonneg _ (by decide)]
    omega
  split
  · -- a tenth of twice a power of two is below half of it
    have hunder : 2 ^ 100000 ≤ 10 ^ 30103 := by decide +kernel
    have hover : 10 ^ 30103 ≤ 2 ^ (100000 + 1) := by decide +kernel
    have hten := ten_zpow_le (by decide) hunder hover hestimate (by omega)
    have htenth : (10 : ℚ) ^ k = 10 * 10 ^ (k - 1) := by
      rw [← zpow_one_add₀ (by norm_num)]; congr 1; omega
    have hquarter : (2 : ℚ) ^ (log + 1) = 4 * 2 ^ (log - 1) := by
      rw [show log + 1 = log - 1 + (2 : Nat) by omega, two_zpow_add]; norm_num
    have hpos := two_zpow_pos (log - 1)
    linarith
  · next hreaches =>
    split
    · next hnext => exact (reaches_iff hden _).mp hnext
    · rw [Bool.not_eq_true, Bool.not_eq_false'] at hreaches
      exact (reaches_iff hden _).mp hreaches

end Interval

/-! ### The result -/

variable {magnitude m : Nat} {q : Int}

theorem den_interval_pos (magnitude : Nat) : 0 < (interval magnitude).den := twoPow_pos _

theorem value_interval (h : parts magnitude = (m, q)) :
    ((interval magnitude).value * (interval magnitude).unit : ℚ) = m * 2 ^ q := by
  have hvalue : (interval magnitude).value = 4 * m := by simp only [interval, h]
  rw [hvalue, ← unit_interval h]
  push_cast
  ring

theorem leading_interval_le (h : parts magnitude = (m, q)) (his : IsParts magnitude m q)
    (hfinite : magnitude < infinity) : (10 : ℚ) ^ (interval magnitude).leading ≤ m * 2 ^ q := by
  have hu := two_zpow_pos q
  have hlimit : (2 : ℚ) ^ (q + (53 : Nat)) ≤ 2 ^ (1024 : Int) :=
    zpow_le_zpow_right₀ one_le_two (by have := his.exponent_le hfinite; omega)
  have hlt : (m : ℚ) * 2 ^ q < 2 ^ 53 * 2 ^ q := mul_lt_mul_of_pos_right (by linarith [his.cast_lt]) hu
  rw [two_zpow_add] at hlimit
  rw [← value_interval h] at hlt ⊢
  refine Interval.leading_le (den_interval_pos magnitude) ?_ (hlt.trans_le hlimit)
  rw [value_interval h]
  exact mul_pos (Nat.cast_pos.mpr his.pos) hu

/-- Seventeen places behind the leading digit the decimal below the value is in the interval. -/
theorem contains_floor (hpos : 0 < magnitude) (hfinite : magnitude < infinity) {e : Int}
    (he : e = (interval magnitude).leading - 17) :
    (interval magnitude).Contains ((interval magnitude).floor e * 10 ^ e) := by
  obtain ⟨m, q, hparts, his⟩ := exists_parts hpos
  have hu := two_zpow_pos q
  have hleading := leading_interval_le hparts his hfinite
  obtain ⟨hfloor, hnext⟩ := Interval.floor_bounds (den_interval_pos magnitude) e
  rw [value_interval hparts] at hfloor hnext
  have hplaces : (10 : ℚ) ^ (interval magnitude).leading = 10 ^ 17 * 10 ^ e := by
    rw [← zpow_natCast, ← zpow_add₀ (by norm_num)]; congr 1; omega
  have hle : (m : ℚ) * 2 ^ q ≤ (2 ^ 53 - 1) * 2 ^ q :=
    mul_le_mul_of_nonneg_right (by linarith [his.cast_lt]) hu.le
  have hquarter : 1 / 4 * 2 ^ q ≤ reachBelow m q * 2 ^ q :=
    mul_le_mul_of_nonneg_right (reachBelow_bounds m q).1 hu.le
  have hlow : (m - reachBelow m q) * 2 ^ q < (interval magnitude).floor e * 10 ^ e := by linarith
  have hhigh : (interval magnitude).floor e * 10 ^ e < (m + 1 / 2 : ℚ) * 2 ^ q := by linarith
  exact (contains_interval hparts his.pos).mpr ⟨hlow.le, hhigh.le, .inr ⟨hlow, hhigh⟩⟩

/-- The shortest decimal of a finite double lies in its interval. -/
theorem contains_shortest (tie : Tie) (hpos : 0 < magnitude) (hfinite : magnitude < infinity) :
    (interval magnitude).Contains
      ((shortest tie magnitude).coefficient * 10 ^ (shortest tie magnitude).exponent) := by
  have hden := den_interval_pos magnitude
  rw [shortest, if_neg hpos.ne', ← Interval.holds_iff hden]
  refine Interval.holds_search ((Interval.holds_iff hden).mpr ?_)
  exact contains_floor hpos hfinite rfl

end Allowlist.Binary64
