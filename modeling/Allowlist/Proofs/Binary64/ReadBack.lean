import Allowlist.Binary64.Notation
import Allowlist.Binary64.Reader
import Allowlist.Proofs.Binary64.Shortest
import Allowlist.Proofs.Text.Scan
import Mathlib.Data.List.TakeWhile

/-! # The text of a double is read back

A text in either notation denotes the shortest decimal of the double: zeros at the end of its digits
are left out and those that the point needs are filled in, and neither changes the number. That
decimal lies in the interval of the double, so a reader finds the double again. -/

namespace Allowlist.Binary64

open Text

/-! ### Digits and their number -/

/-- The number of a run of digits. -/
def digitsNumber (s : List Char) : Nat := ofDigits 10 (s.filterMap digit?)

theorem digitsNumber_append_zeros (s : List Char) (n : Nat) :
    digitsNumber (s ++ List.replicate n '0') = digitsNumber s * 10 ^ n := by
  induction n with
  | zero => simp
  | succ n ih =>
    have hzero : digit? '0' = some 0 := rfl
    unfold digitsNumber at *
    rw [List.replicate_succ', ← List.append_assoc, List.filterMap_append,
      List.filterMap_cons_some hzero, List.filterMap_nil, ofDigits_append, ih, Nat.pow_succ,
      ← Nat.mul_assoc]
    rfl

theorem digitsNumber_zeros_append (s : List Char) (n : Nat) :
    digitsNumber (List.replicate n '0' ++ s) = digitsNumber s := by
  induction n with
  | zero => rfl
  | succ n ih => exact ih

theorem decimal_bounds {n : Nat} (h : n ≠ 0) :
    10 ^ (decimal n).length ≤ 10 * n ∧ n < 10 ^ (decimal n).length := by
  induction n using Nat.strongRecOn with
  | _ n ih =>
    rcases Nat.lt_or_ge n 10 with hn | hn
    · rw [decimal_of_lt hn, List.length_singleton]
      omega
    · obtain ⟨hlow, hhigh⟩ := ih (n / 10) (by omega) (by omega)
      rw [decimal_of_le hn, List.length_append, List.length_singleton, Nat.pow_succ]
      omega

/-- What is left out behind the significant digits is zeros. -/
theorem exists_significantDigits (n : Nat) :
    ∃ zeros, decimal n = significantDigits n ++ List.replicate zeros '0' := by
  refine ⟨((decimal n).reverse.takeWhile (· = '0')).length, ?_⟩
  have hzeros : (decimal n).reverse.takeWhile (· = '0') =
      List.replicate ((decimal n).reverse.takeWhile (· = '0')).length '0' :=
    List.eq_replicate_of_mem fun c hc => by simpa using List.mem_takeWhile_imp hc
  rw [significantDigits, ← List.reverse_replicate, ← hzeros, ← List.reverse_append,
    List.takeWhile_append_dropWhile, List.reverse_reverse]

theorem isDigit_of_mem_significantDigits {n : Nat} {c : Char} (h : c ∈ significantDigits n) :
    isDigit c = true := by
  obtain ⟨zeros, hzeros⟩ := exists_significantDigits n
  exact isDigit_of_mem_decimal (n := n) (hzeros ▸ List.mem_append_left _ h)

/-! ### Decimals in the interval -/

section
variable {magnitude c : Nat} {e : Int} {v : ℚ}

/-- The intervals are between half the least double and the power of two above the greatest. -/
theorem Interval.Contains.bounds (hpos : 0 < magnitude) (hfinite : magnitude < infinity)
    (h : (interval magnitude).Contains v) : (2 : ℚ) ^ (-1075 : Int) ≤ v ∧ v ≤ 2 ^ (1024 : Int) := by
  obtain ⟨m, q, hparts, his⟩ := exists_parts hpos
  obtain ⟨hlow, hhigh, -⟩ := (contains_interval hparts his.pos).mp h
  have hu := two_zpow_pos q
  have hhalf := (reachBelow_bounds m q).2
  have hm : (1 : ℚ) ≤ m := Nat.one_le_cast.mpr his.pos
  have hleast := his.least
  have hmost := his.exponent_le hfinite
  constructor
  · calc (2 : ℚ) ^ (-1075 : Int) ≤ 2 ^ (q - 1) := zpow_le_zpow_right₀ one_le_two (by omega)
      _ = 1 / 2 * 2 ^ q := by rw [zpow_sub_one₀ two_ne_zero]; ring
      _ ≤ (m - reachBelow m q) * 2 ^ q := by gcongr; linarith
      _ ≤ v := hlow
  · calc v ≤ (m + 1 / 2) * 2 ^ q := hhigh
      _ ≤ 2 ^ 53 * 2 ^ q := by gcongr; linarith [his.cast_lt]
      _ = 2 ^ (q + (53 : Nat)) := (two_zpow_add q 53).symm
      _ ≤ 2 ^ (1024 : Int) := zpow_le_zpow_right₀ one_le_two (by omega)

theorem Interval.Contains.ne_zero (hpos : 0 < magnitude) (hfinite : magnitude < infinity)
    (h : (interval magnitude).Contains (c * 10 ^ e)) : c ≠ 0 := by
  rintro rfl
  have hleast := (h.bounds hpos hfinite).1
  rw [Nat.cast_zero, zero_mul] at hleast
  exact not_lt.mpr hleast (two_zpow_pos _)

theorem ofDecimal_of_contains (hpos : 0 < magnitude) (hfinite : magnitude < infinity)
    (h : (interval magnitude).Contains (c * 10 ^ e)) : ofDecimal c e = magnitude := by
  obtain ⟨hleast, hmost⟩ := h.bounds hpos hfinite
  have hc := h.ne_zero hpos hfinite
  obtain ⟨hlow, hhigh⟩ := decimal_bounds hc
  have hten := ten_zpow_pos e
  have hsize : ((10 ^ (decimal c).length : Nat) : ℚ) * 10 ^ e = 10 ^ ((decimal c).length + e) := by
    rw [zpow_add₀ (by norm_num), zpow_natCast, Nat.cast_pow, Nat.cast_ofNat]
  have hlow : (10 : ℚ) ^ ((decimal c).length + e) ≤ 10 * (c * 10 ^ e) := by
    rw [← hsize, ← mul_assoc]
    exact mul_le_mul_of_nonneg_right (by exact_mod_cast hlow) hten.le
  have hhigh : c * 10 ^ e < (10 : ℚ) ^ ((decimal c).length + e) := by
    rw [← hsize]
    exact mul_lt_mul_of_pos_right (by exact_mod_cast hhigh) hten
  have hmono {a b : Int} (h : a ≤ b) : (10 : ℚ) ^ a ≤ 10 ^ b := zpow_le_zpow_right₀ (by norm_num) h
  unfold ofDecimal
  rw [if_neg hc]
  simp only
  split
  · next hlarge =>
    have hten : (10 : ℚ) ^ (311 : Int) ≤ 10 ^ ((decimal c).length + e) := hmono (by omega)
    have htwo : 10 * (2 : ℚ) ^ (1024 : Int) < 10 ^ (311 : Int) := by
      exact_mod_cast (by decide +kernel : 10 * 2 ^ 1024 < 10 ^ 311)
    have hmost : 10 * (c * 10 ^ e) ≤ 10 * (2 : ℚ) ^ (1024 : Int) :=
      mul_le_mul_of_nonneg_left hmost (by norm_num)
    exact absurd (htwo.trans_le (hten.trans hlow)) (not_lt.mpr hmost)
  · split
    · next hsmall =>
      have hten : (10 : ℚ) ^ ((decimal c).length + e) ≤ 10 ^ (-331 : Int) := hmono (by omega)
      have htwo : (10 : ℚ) ^ (-331 : Int) < 2 ^ (-1075 : Int) := by
        rw [zpow_neg, zpow_neg, inv_lt_inv₀ (ten_zpow_pos _) (two_zpow_pos _)]
        exact_mod_cast (by decide +kernel : 2 ^ 1075 < 10 ^ 331)
      exact absurd (hhigh.trans_le (hten.trans htwo.le)) (not_lt.mpr hleast)
    · have hvalue : ((c * tenPow e.toNat : Nat) : ℚ) / (tenPow (-e).toNat : Nat) = c * 10 ^ e := by
        rw [ten_zpow_eq_div, Nat.cast_mul, mul_div_assoc]
      exact nearest_of_contains hpos hfinite (tenPow_pos _).ne' (hvalue.symm ▸ h)

end

/-! ### Numerals -/

/-- Digits behind a point, or nothing. -/
def pointed : List Char → List Char
  | [] => []
  | fraction => '.' :: fraction

/-- A numeral without a sign, and the number that it denotes: digits, more of them behind a point
unless there are none, and an exponent. -/
inductive IsNumeral (s : List Char) (v : ℚ) : Prop
  | intro (whole fraction : List Char) {tail : List Char} {exponent : Int} (hne : whole ≠ [])
    (hdigits : ∀ c ∈ whole ++ fraction, isDigit c = true)
    (htail : readExponent? tail = some exponent) (hs : s = whole ++ pointed fraction ++ tail)
    (hv : v = digitsNumber (whole ++ fraction) * 10 ^ (exponent - fraction.length))

theorem pointed_of_ne_nil {fraction : List Char} (h : fraction ≠ []) :
    pointed fraction = '.' :: fraction := by
  cases fraction with
  | nil => exact absurd rfl h
  | cons c rest => rfl

theorem head_of_readExponent? {tail : List Char} {exponent : Int}
    (h : readExponent? tail = some exponent) : ∀ c ∈ tail.head?, c = 'e' ∨ c = 'E' := by
  cases tail with
  | nil => simp
  | cons c rest =>
    rintro c' hc
    obtain rfl := Option.some.inj hc
    by_contra hne
    rw [readExponent?, if_neg hne] at h
    cases h

theorem takeSign_of_isDigit {c : Char} {rest : List Char} (h : isDigit c = true) :
    takeSign (c :: rest) = (false, c :: rest) := by
  unfold takeSign
  split
  · next heq => exact absurd ((List.cons.inj heq).1 ▸ h) (by decide)
  · next heq => exact absurd ((List.cons.inj heq).1 ▸ h) (by decide)
  · rfl

/-- A numeral is read as the double nearest to its number, with the sign in front. -/
theorem IsNumeral.read? {s : List Char} {v : ℚ} (h : IsNumeral s v) (negative : Bool) :
    ∃ (c : Nat) (e : Int), v = c * 10 ^ e ∧
      Binary64.read? ((if negative then ['-'] else []) ++ s) =
        some (ofMagnitude negative (ofDecimal c e)) := by
  obtain @⟨whole, fraction, tail, exponent, hne, hdigits, htail, rfl, rfl⟩ := h
  refine ⟨_, _, rfl, ?_⟩
  rw [List.forall_mem_append] at hdigits
  obtain ⟨hwhole, hfraction⟩ := hdigits
  have hhead : ∀ c ∈ tail.head?, c ≠ '.' ∧ isDigit c = false := fun c hc => by
    rcases head_of_readExponent? htail c hc with rfl | rfl <;> exact ⟨by decide, rfl⟩
  have hsign : takeSign ((if negative then ['-'] else []) ++ (whole ++ pointed fraction ++ tail)) =
      (negative, whole ++ (pointed fraction ++ tail)) := by
    obtain ⟨d, rest, rfl⟩ := List.exists_cons_of_ne_nil hne
    rw [List.append_assoc]
    cases negative
    · exact takeSign_of_isDigit (hwhole d (List.mem_cons_self ..))
    · rfl
  have hpoint : ∀ c ∈ (pointed fraction ++ tail).head?, isDigit c = false := by
    cases fraction with
    | nil => exact fun c hc => (hhead c hc).2
    | cons d rest => exact fun c hc => Option.some.inj hc ▸ rfl
  have hsome : whole.filterMap digit? ≠ [] := by
    rw [← List.length_pos_iff, length_filterMap_digit? hwhole, List.length_pos_iff]
    exact hne
  have hlength := length_filterMap_digit? hfraction
  unfold Binary64.read?
  simp only [hsign, takeDigits_append hwhole hpoint]
  cases fraction with
  | nil =>
    rw [show pointed [] ++ tail = tail from rfl]
    split
    · next rest => exact absurd rfl (hhead '.' rfl).1
    · rw [if_neg (by simp [hsome]), htail, Option.map_some]
      simp only [List.append_nil, digitsNumber, List.length_nil]
  | cons d rest =>
    rw [show pointed (d :: rest) ++ tail = '.' :: (d :: rest ++ tail) from rfl]
    simp only [takeDigits_append hfraction fun c hc => (hhead c hc).2]
    rw [if_neg (by simp [hsome]), htail, Option.map_some, hlength]
    rw [digitsNumber, List.filterMap_append]

/-! ### Both notations -/

section
variable {layout : Layout} {digits : List Char}

/-- What follows a whole number is nothing, or zeros behind a point. -/
def Layout.EndsInZeros (layout : Layout) : Prop :=
  ∃ n, layout.wholeEnd = pointed (List.replicate n '0')

theorem isNumeral_positionalText (hend : layout.EndsInZeros) (hne : digits ≠ [])
    (hdigits : ∀ c ∈ digits, isDigit c = true) (whole : Int) :
    IsNumeral (positionalText layout digits whole)
      (digitsNumber digits * 10 ^ (whole - digits.length)) := by
  have hzeros (n : Nat) : ∀ c ∈ List.replicate n '0', isDigit c = true := fun c hc =>
    List.eq_of_mem_replicate hc ▸ rfl
  have hnone : readExponent? [] = some 0 := rfl
  have hten : (10 : ℚ) ≠ 0 := by norm_num
  unfold positionalText
  split
  · next hle =>
    have hfraction : List.replicate (-whole).toNat '0' ++ digits ≠ [] :=
      List.append_ne_nil_of_right_ne_nil _ hne
    refine .intro ['0'] (List.replicate (-whole).toNat '0' ++ digits) (by simp)
      (List.forall_mem_append.mpr ⟨hzeros 1, List.forall_mem_append.mpr ⟨hzeros _, hdigits⟩⟩)
      hnone ?_ ?_
    · rw [pointed_of_ne_nil hfraction]; simp
    · rw [List.singleton_append, ← List.cons_append, ← List.replicate_succ, digitsNumber_zeros_append,
        List.length_append, List.length_replicate]
      congr 2
      omega
  · split
    · next hpos hlength =>
      obtain ⟨n, hend⟩ := hend
      refine .intro (digits ++ List.replicate (whole.toNat - digits.length) '0')
        (List.replicate n '0') (List.append_ne_nil_of_left_ne_nil hne _)
        (List.forall_mem_append.mpr ⟨List.forall_mem_append.mpr ⟨hdigits, hzeros _⟩, hzeros _⟩)
        hnone ?_ ?_
      · rw [hend, List.append_nil]
      · rw [digitsNumber_append_zeros, digitsNumber_append_zeros, List.length_replicate]
        push_cast
        rw [mul_assoc, mul_assoc, ← zpow_natCast, ← zpow_natCast, ← zpow_add₀ hten,
          ← zpow_add₀ hten]
        congr 2
        omega
    · next hpos hlength =>
      have hdrop : digits.drop whole.toNat ≠ [] := by
        rw [Ne, List.drop_eq_nil_iff]; exact hlength
      have htake : digits.take whole.toNat ≠ [] := by
        rw [Ne, List.take_eq_nil_iff]
        exact fun h => h.elim (by omega) hne
      refine .intro (digits.take whole.toNat) (digits.drop whole.toNat) htake
        (by rwa [List.take_append_drop]) hnone ?_ ?_
      · rw [pointed_of_ne_nil hdrop]; simp
      · rw [List.take_append_drop, List.length_drop]
        congr 2
        omega

theorem isNumeral_exponentText (hne : digits ≠ []) (hdigits : ∀ c ∈ digits, isDigit c = true)
    (leading : Int) :
    IsNumeral (exponentText digits leading)
      (digitsNumber digits * 10 ^ (leading + 1 - digits.length)) := by
  obtain ⟨d, rest, rfl⟩ := List.exists_cons_of_ne_nil hne
  have htail : readExponent? ('e' :: (if leading < 0 then '-' else '+') :: decimal leading.natAbs) =
      some leading := by
    rw [readExponent?, if_pos (.inl rfl)]
    by_cases hneg : leading < 0
    · have habs : -(leading.natAbs : Int) = leading := by omega
      simp only [hneg, takeSign, natural?_decimal, if_true]
      exact congrArg some habs
    · have habs : (leading.natAbs : Int) = leading := by omega
      simp only [hneg, takeSign, natural?_decimal, Bool.false_eq_true, if_false]
      exact congrArg some habs
  refine .intro [d] rest (by simp) hdigits htail ?_ ?_
  · unfold exponentText
    cases rest <;> simp [pointed]
  · rw [List.length_cons, List.singleton_append]
    congr 2
    omega

end

theorem ofMagnitude_self (x : Binary64) : ofMagnitude x.isNegative x.magnitude = x := by
  have hbits := x.bits.toNat_lt
  have hword : 2 ^ 64 = 2 * signBit := rfl
  have hvalue : (if x.isNegative then signBit + x.magnitude else x.magnitude) = x.bits.toNat := by
    have hdm := Nat.div_add_mod' x.bits.toNat signBit
    simp only [isNegative, magnitude, decide_eq_true_eq]
    split
    · rw [Nat.mod_eq_sub_mod ‹_›, Nat.mod_eq_of_lt (by omega)]
      omega
    · exact Nat.mod_eq_of_lt (by omega)
  cases x
  simp only [ofMagnitude, hvalue, UInt64.ofNat_toNat]

variable {layout : Layout} {x : Binary64}

theorem read?_of_isNumeral {s : List Char} {v : ℚ} (hs : IsNumeral s v)
    (h : ∀ (c : Nat) (e : Int), v = c * 10 ^ e → ofDecimal c e = x.magnitude) :
    read? ((if x.isNegative then ['-'] else []) ++ s) = some x := by
  obtain ⟨c, e, hv, hread⟩ := hs.read? x.isNegative
  rw [hread, h c e hv, ofMagnitude_self]

theorem isNumeral_zero (hend : layout.EndsInZeros) : IsNumeral (['0'] ++ layout.wholeEnd) 0 := by
  obtain ⟨n, hend⟩ := hend
  have hzero : digitsNumber (['0'] ++ List.replicate n '0') = 0 := by
    rw [digitsNumber_append_zeros]; exact Nat.zero_mul _
  have hnone : readExponent? [] = some 0 := rfl
  refine .intro ['0'] (List.replicate n '0') (by simp) (fun c hc => ?_) hnone ?_ ?_
  · rw [List.singleton_append, ← List.replicate_succ] at hc
    exact List.eq_of_mem_replicate hc ▸ rfl
  · rw [hend, List.append_nil]
  · rw [hzero, Nat.cast_zero, zero_mul]

/-- In either notation the text denotes the shortest decimal. -/
theorem isNumeral_digits (hend : layout.EndsInZeros) {d : Decimal} (hd : d.coefficient ≠ 0)
    {leading : Int} (hleading : leading = d.exponent + (decimal d.coefficient).length - 1) :
    IsNumeral
      (if layout.positional leading then
        positionalText layout (significantDigits d.coefficient) (leading + 1)
      else exponentText (significantDigits d.coefficient) leading)
      (d.coefficient * 10 ^ d.exponent) := by
  obtain ⟨zeros, hzeros⟩ := exists_significantDigits d.coefficient
  have hnumber : d.coefficient = digitsNumber (significantDigits d.coefficient) * 10 ^ zeros := by
    rw [← digitsNumber_append_zeros, ← hzeros]
    exact (ofDigits_decimal d.coefficient).symm
  have hne : significantDigits d.coefficient ≠ [] := by
    intro hnil
    rw [hnil] at hnumber
    exact hd (hnumber.trans (Nat.zero_mul _))
  have hdigits : ∀ c ∈ significantDigits d.coefficient, isDigit c = true :=
    fun _ => isDigit_of_mem_significantDigits
  have hlength :
      (decimal d.coefficient).length = (significantDigits d.coefficient).length + zeros := by
    conv_lhs => rw [hzeros, List.length_append, List.length_replicate]
  have hvalue : (d.coefficient * 10 ^ d.exponent : ℚ) =
      digitsNumber (significantDigits d.coefficient) *
        10 ^ (leading + 1 - (significantDigits d.coefficient).length) := by
    conv_lhs => rw [hnumber]
    push_cast
    rw [mul_assoc, ← zpow_natCast, ← zpow_add₀ (by norm_num)]
    congr 2
    omega
  rw [hvalue]
  split
  · exact isNumeral_positionalText hend hne hdigits _
  · exact isNumeral_exponentText hne hdigits _

theorem isNaN_of_isFinite (h : x.isFinite = true) : x.isNaN = false := by
  have hlt : x.magnitude < infinity := of_decide_eq_true h
  exact decide_eq_false (by omega)

/-- The text of a finite double is read back. -/
theorem read?_text (hend : layout.EndsInZeros) (h : x.isFinite = true) :
    read? (x.text layout) = some x := by
  have hfinite : x.magnitude < infinity := of_decide_eq_true h
  unfold text
  simp only [isNaN_of_isFinite h, h, Bool.not_true, Bool.false_eq_true, if_false]
  split
  · next hzero =>
    rw [List.append_assoc]
    refine read?_of_isNumeral (isNumeral_zero hend) fun c e hv => ?_
    have hc : c = 0 := by
      have := (mul_eq_zero.mp hv.symm).resolve_right (ten_zpow_pos e).ne'
      exact_mod_cast this
    rw [hc, hzero, ofDecimal, if_pos rfl]
  · next hne =>
    have hpos : 0 < x.magnitude := Nat.pos_of_ne_zero hne
    have hcontains := contains_shortest layout.tie hpos hfinite
    have hcoefficient := hcontains.ne_zero hpos hfinite
    refine read?_of_isNumeral (isNumeral_digits hend hcoefficient rfl) fun c e hv => ?_
    exact ofDecimal_of_contains hpos hfinite (hv ▸ hcontains)

/-! ### The characters of a text -/

theorem mem_positionalText {digits : List Char} {whole : Int} {c : Char}
    (h : c ∈ positionalText layout digits whole) :
    c ∈ digits ∨ c = '0' ∨ c = '.' ∨ c ∈ layout.wholeEnd := by
  unfold positionalText at h
  split at h
  · simp only [List.mem_append, List.mem_cons, List.not_mem_nil, or_false] at h
    rcases h with ((rfl | rfl) | h) | h
    · exact .inr (.inl rfl)
    · exact .inr (.inr (.inl rfl))
    · exact .inr (.inl (List.eq_of_mem_replicate h))
    · exact .inl h
  · split at h
    · simp only [List.mem_append] at h
      rcases h with (h | h) | h
      · exact .inl h
      · exact .inr (.inl (List.eq_of_mem_replicate h))
      · exact .inr (.inr (.inr h))
    · simp only [List.mem_append, List.mem_singleton] at h
      rcases h with (h | rfl) | h
      · exact .inl (List.mem_of_mem_take h)
      · exact .inr (.inr (.inl rfl))
      · exact .inl (List.mem_of_mem_drop h)

/-- Without an exponent there are only digits, a sign and a point. -/
theorem mem_text (hpositional : ∀ leading, layout.positional leading = true)
    (h : x.isFinite = true) {c : Char} (hc : c ∈ x.text layout) :
    isDigit c = true ∨ c = '-' ∨ c = '.' ∨ c ∈ layout.wholeEnd := by
  have hsign {s : List Char} (hc : c ∈ (if x.isNegative then ['-'] else []) ++ s) :
      c = '-' ∨ c ∈ s := by
    rcases List.mem_append.mp hc with hc | hc
    · split at hc
      · exact .inl (List.mem_singleton.mp hc)
      · exact absurd hc List.not_mem_nil
    · exact .inr hc
  unfold text at hc
  simp only [isNaN_of_isFinite h, h, hpositional, Bool.not_true, Bool.false_eq_true, if_false,
    if_true] at hc
  split at hc
  · rw [List.append_assoc] at hc
    rcases hsign hc with rfl | hc
    · exact .inr (.inl rfl)
    · rcases List.mem_cons.mp hc with rfl | hc
      · exact .inl rfl
      · exact .inr (.inr (.inr hc))
  · rcases hsign hc with rfl | hc
    · exact .inr (.inl rfl)
    · rcases mem_positionalText hc with hc | rfl | rfl | hc
      · exact .inl (isDigit_of_mem_significantDigits hc)
      · exact .inl rfl
      · exact .inr (.inr (.inl rfl))
      · exact .inr (.inr (.inr hc))

end Allowlist.Binary64
