import Allowlist.Proofs.Text.Decimal
import Mathlib.Data.List.Induction

/-! # Hexadecimal texts of a fixed width

A number that fits is denoted by the digits that it is written with, and digits in lower case are
those with which the number that they denote is written at their length. -/

namespace Allowlist.Text

def IsLowerHex (c : Char) : Prop := '0' ≤ c ∧ c ≤ '9' ∨ 'a' ≤ c ∧ c ≤ 'f'

theorem hexDigit?_digitChar {d : Nat} (h : d < 16) : hexDigit? (digitChar d) = some d := by
  have hall : ∀ d < 16, hexDigit? (digitChar d) = some d := by decide
  exact hall d h

theorem isLowerHex_digitChar {d : Nat} (h : d < 16) : IsLowerHex (digitChar d) := by
  have hall : ∀ d < 16, '0' ≤ digitChar d ∧ digitChar d ≤ '9' ∨ 'a' ≤ digitChar d ∧ digitChar d ≤ 'f' := by
    decide
  exact hall d h

theorem isLowerHex_of_mem_fixedWidth {width n : Nat} {c : Char} (h : c ∈ fixedWidth 16 width n) :
    IsLowerHex c := by
  induction width generalizing n with
  | zero => exact absurd h List.not_mem_nil
  | succ width ih =>
    rcases List.mem_append.mp h with h | h
    · exact ih h
    · rw [List.mem_singleton.mp h]
      exact isLowerHex_digitChar (Nat.mod_lt n (by decide))

theorem ofDigits_concat (base : Nat) (digits : List Nat) (d : Nat) :
    ofDigits base (digits ++ [d]) = ofDigits base digits * base + d :=
  ofDigits_append base digits [d]

theorem ofDigits_fixedWidth {width n : Nat} (h : n < Nat.pow 16 width) :
    ofDigits 16 ((fixedWidth 16 width n).filterMap hexDigit?) = n := by
  induction width generalizing n with
  | zero =>
    have hn : n < 1 := h
    simp only [fixedWidth, List.filterMap_nil, ofDigits, List.foldl_nil]; omega
  | succ width ih =>
    have hdigit := hexDigit?_digitChar (Nat.mod_lt n (by decide : 16 > 0))
    rw [fixedWidth, List.filterMap_append, List.filterMap_cons_some hdigit, List.filterMap_nil,
      ofDigits_concat, ih (Nat.div_lt_of_lt_mul (by rwa [Nat.mul_comm]))]
    exact Nat.div_add_mod' n 16

theorem exists_digitChar {c : Char} (h : IsLowerHex c) : ∃ d < 16, c = digitChar d := by
  rcases h with ⟨hlo, hhi⟩ | ⟨hlo, hhi⟩
  · have hlo : 48 ≤ c.toNat := hlo
    have hhi : c.toNat ≤ 57 := hhi
    refine ⟨c.toNat - 48, by omega, ?_⟩
    rw [digitChar, if_pos (by omega), Nat.add_sub_cancel' hlo, Char.ofNat_toNat]
  · have hlo : 97 ≤ c.toNat := hlo
    have hhi : c.toNat ≤ 102 := hhi
    refine ⟨c.toNat - 87, by omega, ?_⟩
    rw [digitChar, if_neg (by omega), Nat.add_sub_cancel' (by omega), Char.ofNat_toNat]

theorem isHexDigit_of_isLowerHex {c : Char} (h : IsLowerHex c) : isHexDigit c = true := by
  obtain ⟨d, hd, rfl⟩ := exists_digitChar h
  rw [isHexDigit, hexDigit?_digitChar hd]; rfl

/-- Each number has only one text of a length. -/
theorem fixedWidth_ofDigits {digits : List Char} (h : ∀ c ∈ digits, IsLowerHex c) :
    fixedWidth 16 digits.length (ofDigits 16 (digits.filterMap hexDigit?)) = digits := by
  induction digits using List.reverseRecOn with
  | nil => rfl
  | append_singleton digits c ih =>
    obtain ⟨d, hd, rfl⟩ := exists_digitChar (h c (by simp))
    have hrest : ∀ c ∈ digits, IsLowerHex c := fun c hc => h c (List.mem_append_left _ hc)
    rw [List.length_append, List.length_singleton, List.filterMap_append,
      List.filterMap_cons_some (hexDigit?_digitChar hd), List.filterMap_nil, ofDigits_concat, fixedWidth]
    have hdiv : (ofDigits 16 (digits.filterMap hexDigit?) * 16 + d) / 16 =
        ofDigits 16 (digits.filterMap hexDigit?) := by omega
    have hmod : (ofDigits 16 (digits.filterMap hexDigit?) * 16 + d) % 16 = d := by omega
    rw [hdiv, hmod, ih hrest]

end Allowlist.Text
