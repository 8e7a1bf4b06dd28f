import Allowlist.Proofs.Text.Hexadecimal
import Allowlist.Proofs.Value.Uuid

/-! # The texts of UUIDs are read back

Hyphens that are put between the groups of a run of digits are found in the same places and taken
out again. So the hyphenated form is read as the number that it was written from. A text with a
character that is neither a digit nor a hyphen can only be one of the forms with something around
the groups, which its first character tells. -/

namespace Allowlist.Uuid

open Text

/-! ### Hyphens -/

theorem length_hyphenate {n : Nat} {rest : List Nat} {s : List Char}
    (h : s.length = (n :: rest).foldr (· + ·) 0) :
    (hyphenate (n :: rest) s).length = s.length + rest.length := by
  induction rest generalizing n s with
  | nil =>
    rw [hyphenate, List.length_take, h]
    simp
  | cons m rest ih =>
    rw [List.foldr_cons] at h
    have hdrop : (s.drop n).length = (m :: rest).foldr (· + ·) 0 := by
      rw [List.length_drop]
      omega
    rw [hyphenate_cons_cons, List.length_append, List.length_cons, ih hdrop]
    simp only [List.length_take, List.length_drop, List.length_cons]
    omega

theorem mem_hyphenate {groups : List Nat} {s : List Char} {c : Char} (h : c ∈ hyphenate groups s) :
    c = '-' ∨ c ∈ s := by
  induction groups generalizing s with
  | nil => exact absurd h List.not_mem_nil
  | cons n rest ih =>
    cases rest with
    | nil => exact .inr (List.mem_of_mem_take h)
    | cons m rest =>
      rw [hyphenate_cons_cons, List.mem_append, List.mem_cons] at h
      rcases h with h | h | h
      · exact .inr (List.mem_of_mem_take h)
      · exact .inl h
      · exact (ih h).imp_right List.mem_of_mem_drop

theorem unhyphenate?_hyphenate {groups : List Nat} {s : List Char}
    (h : s.length = groups.foldr (· + ·) 0) : unhyphenate? groups (hyphenate groups s) = some s := by
  induction groups generalizing s with
  | nil => rw [List.eq_nil_of_length_eq_zero h]; rfl
  | cons n rest ih =>
    rw [List.foldr_cons] at h
    cases rest with
    | nil =>
      have hlength : s.length = n := h
      rw [hyphenate, ← hlength, List.take_length, unhyphenate?, if_pos rfl]
    | cons m rest =>
      have hdrop : (s.drop n).length = (m :: rest).foldr (· + ·) 0 := by
        rw [List.length_drop]
        omega
      have htake : (s.take n).length = n := List.length_take_of_le (by omega)
      rw [hyphenate_cons_cons, unhyphenate?, List.drop_left' htake, List.take_left' htake]
      · simp only [ih hdrop, Option.map_some, List.take_append_drop]
      · exact fun h => by cases h

theorem mem_of_unhyphenate? {groups : List Nat} {s digits : List Char} {c : Char}
    (h : unhyphenate? groups s = some digits) (hc : c ∈ s) (hhyphen : c ≠ '-') : c ∈ digits := by
  induction groups generalizing s digits with
  | nil =>
    unfold unhyphenate? at h
    split at h
    · next hs => exact absurd (hs ▸ hc) List.not_mem_nil
    · cases h
  | cons n rest ih =>
    cases rest with
    | nil =>
      unfold unhyphenate? at h
      split at h
      · exact Option.some.inj h ▸ hc
      · cases h
    | cons m rest =>
      rw [← List.take_append_drop n s] at hc
      unfold unhyphenate? at h
      split at h
      · next after hafter =>
        obtain ⟨others, hothers, rfl⟩ := Option.map_eq_some_iff.mp h
        rw [hafter] at hc
        simp only [List.mem_append, List.mem_cons, hhyphen, false_or] at hc
        exact List.mem_append.mpr (hc.imp_right (ih hothers))
      · cases h

/-! ### The hyphenated form -/

variable (u : Uuid)

theorem length_text : u.text.length = 36 := by
  rw [text, groups, length_hyphenate u.length_digits, length_fixedWidth]; rfl

theorem ofDigits?_digits : ofDigits? (fixedWidth 16 32 u.value.toNat) = some u := by
  have hall : (fixedWidth 16 32 u.value.toNat).all isHexDigit = true :=
    List.all_eq_true.mpr fun c hc => isHexDigit_of_isLowerHex (isLowerHex_of_mem_fixedWidth hc)
  rw [ofDigits?, if_pos ⟨length_fixedWidth .., hall⟩, ofDigits_fixedWidth u.value_lt, BitVec.ofNat_toNat]
  simp

theorem parse?_text : parse? u.text = some u := by
  have hgroups : unhyphenate? groups u.text = some (fixedWidth 16 32 u.value.toNat) :=
    unhyphenate?_hyphenate u.length_digits
  rw [parse?, length_text, if_neg (by decide), if_pos rfl, hgroups, Option.bind_eq_bind,
    Option.bind_some, ofDigits?_digits]

/-! ### Texts that are no UUID -/

theorem isHexDigit_of_ofDigits? {s : List Char} {u : Uuid} (h : ofDigits? s = some u) {c : Char}
    (hc : c ∈ s) : isHexDigit c = true := by
  unfold ofDigits? at h
  split at h
  · next hdigits => exact List.all_eq_true.mp hdigits.2 c hc
  · cases h

theorem isHexDigit_of_unhyphenate? {s : List Char} {u : Uuid}
    (h : unhyphenate? groups s >>= ofDigits? = some u) {c : Char} (hc : c ∈ s) (hhyphen : c ≠ '-') :
    isHexDigit c = true := by
  obtain ⟨digits, hdigits, hu⟩ := Option.bind_eq_some_iff.mp h
  exact isHexDigit_of_ofDigits? hu (mem_of_unhyphenate? hdigits hc hhyphen)

/-- The first character of a form with something around the groups is a brace or the letter u. -/
theorem parse?_eq_none {s : List Char} {c : Char} (hc : c ∈ s) (hhex : isHexDigit c = false)
    (hhyphen : c ≠ '-') (hhead : ∀ d ∈ s.head?, d ≠ '\x7b' ∧ d.toLower ≠ 'u') : parse? s = none := by
  have hnot : ¬ isHexDigit c = true := by simp [hhex]
  cases hparse : parse? s with
  | none => rfl
  | some u =>
    unfold parse? at hparse
    split at hparse
    · exact absurd (isHexDigit_of_ofDigits? hparse hc) hnot
    · split at hparse
      · exact absurd (isHexDigit_of_unhyphenate? hparse hc hhyphen) hnot
      · split at hparse
        · next hbrace => exact absurd rfl (hhead _ hbrace.2.1).1
        · split at hparse
          · next hurn =>
            obtain ⟨d, rest, rfl⟩ := List.exists_cons_of_ne_nil (List.ne_nil_of_mem hc)
            have hu : some d.toLower = some 'u' := congrArg List.head? hurn.2
            exact absurd (Option.some.inj hu) (hhead d rfl).2
          · cases hparse

end Allowlist.Uuid
