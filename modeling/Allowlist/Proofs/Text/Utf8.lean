import Allowlist.Text.Utf8

/-! # UTF-8 is decoded as it was encoded

The first octet of a character says how many follow and brings the upper bits. Where the range of
the next octet is narrower, for overlong forms, surrogates and numbers beyond the last character, an
octet of an encoded character is in it all the same. Each octet that follows then brings six bits
more, so that with the last of them the number of the character is complete. -/

namespace Allowlist.Text

variable {n : Nat} {rest : List UInt8}

theorem toNat_toUInt8 (h : n < 256) : n.toUInt8.toNat = n := Nat.mod_eq_of_lt h

theorem decodeUtf8_cons_of_lt {b : UInt8} (h : b.toNat < 0x80) (rest : List UInt8) :
    decodeUtf8 (b :: rest) = Char.ofNat b.toNat :: decodeUtf8 rest := by
  rw [decodeUtf8, decodeFrom, if_pos h]; rfl

theorem decodeUtf8_lead {l : Lead} (hlow : 0x80 ≤ n) (hhigh : n < 256) (hlead : lead? n = some l) :
    decodeUtf8 (n.toUInt8 :: rest) = decodeFrom (some l) rest := by
  rw [decodeUtf8, decodeFrom, toNat_toUInt8 hhigh, if_neg (Nat.not_lt.mpr hlow), hlead]

/-- An octet in the range that it is owed in brings six bits. -/
theorem decodeFrom_more {following low high bits : Nat} (hbits : n < 0x40) (hlow : low ≤ 0x80 + n)
    (hhigh : 0x80 + n ≤ high) :
    decodeFrom (some ⟨following + 2, low, high, bits⟩) ((0x80 + n).toUInt8 :: rest) =
      decodeFrom (some ⟨following + 1, 0x80, 0xBF, bits * 0x40 + n⟩) rest := by
  rw [decodeFrom, toNat_toUInt8 (by omega)]
  refine (if_pos ⟨hlow, hhigh⟩).trans ?_
  rw [Nat.add_sub_cancel_left]
  exact if_neg (by simp)

/-- The last octet of a character completes its number. -/
theorem decodeFrom_last {low high bits : Nat} {c : Char} (hbits : n < 0x40)
    (hlow : low ≤ 0x80 + n) (hhigh : 0x80 + n ≤ high) (hc : c.toNat = bits * 0x40 + n) :
    decodeFrom (some ⟨1, low, high, bits⟩) ((0x80 + n).toUInt8 :: rest) =
      c :: decodeUtf8 rest := by
  rw [decodeUtf8, decodeFrom, toNat_toUInt8 (by omega)]
  refine (if_pos ⟨hlow, hhigh⟩).trans ?_
  rw [Nat.add_sub_cancel_left, ← hc]
  exact (if_pos (Nat.le_refl 1)).trans (by rw [Char.ofNat_toNat])

/-! ### First octets -/

theorem lead?_two (hlow : 0x80 ≤ n) (hhigh : n < 0x800) :
    lead? (0xC0 + n / 0x40) = some ⟨1, 0x80, 0xBF, n / 0x40⟩ := by
  rw [lead?, if_pos (by omega), Nat.add_sub_cancel_left]

theorem lead?_three (hlow : 0x800 ≤ n) (hhigh : n < 0x10000) (hvalid : n < 0xD800 ∨ 0xDFFF < n) :
    ∃ low high, lead? (0xE0 + n / 0x1000) = some ⟨2, low, high, n / 0x1000⟩ ∧
      low ≤ 0x80 + n / 0x40 % 0x40 ∧ 0x80 + n / 0x40 % 0x40 ≤ high := by
  rw [lead?, if_neg (by omega)]
  split
  · next h => exact ⟨0xA0, 0xBF, by rw [show n / 0x1000 = 0 by omega], by omega, by omega⟩
  split
  · next h => exact ⟨0x80, 0x9F, by rw [show n / 0x1000 = 0xD by omega], by omega, by omega⟩
  · rw [if_pos (by omega), Nat.add_sub_cancel_left]
    exact ⟨0x80, 0xBF, rfl, by omega, by omega⟩

theorem lead?_four (hlow : 0x10000 ≤ n) (hhigh : n < 0x110000) :
    ∃ low high, lead? (0xF0 + n / 0x40000) = some ⟨3, low, high, n / 0x40000⟩ ∧
      low ≤ 0x80 + n / 0x1000 % 0x40 ∧ 0x80 + n / 0x1000 % 0x40 ≤ high := by
  rw [lead?, if_neg (by omega), if_neg (by omega), if_neg (by omega), if_neg (by omega)]
  split
  · next h => exact ⟨0x90, 0xBF, by rw [show n / 0x40000 = 0 by omega], by omega, by omega⟩
  split
  · rw [Nat.add_sub_cancel_left]
    exact ⟨0x80, 0xBF, rfl, by omega, by omega⟩
  · rw [if_pos (by omega)]
    exact ⟨0x80, 0x8F, by rw [show n / 0x40000 = 4 by omega], by omega, by omega⟩

/-! ### Characters -/

theorem valid_toNat (c : Char) : c.toNat < 0xD800 ∨ 0xDFFF < c.toNat ∧ c.toNat < 0x110000 :=
  c.valid

theorem decodeUtf8_encodeChar (c : Char) :
    decodeUtf8 (encodeChar c ++ rest) = c :: decodeUtf8 rest := by
  have hvalid := valid_toNat c
  simp only [encodeChar]
  split
  · next h =>
    have hnat : c.toNat.toUInt8.toNat = c.toNat := toNat_toUInt8 (by omega)
    rw [List.singleton_append, decodeUtf8_cons_of_lt (hnat.symm ▸ h), hnat, Char.ofNat_toNat]
  split
  · have hlead := lead?_two (n := c.toNat) (by omega) (by omega)
    simp only [List.cons_append, List.nil_append]
    rw [decodeUtf8_lead (by omega) (by omega) hlead,
      decodeFrom_last (c := c) (by omega) (by omega) (by omega) (by omega)]
  split
  · obtain ⟨low, high, hlead, hlow, hhigh⟩ :=
      lead?_three (n := c.toNat) (by omega) (by omega) (by omega)
    simp only [List.cons_append, List.nil_append]
    rw [decodeUtf8_lead (by omega) (by omega) hlead, decodeFrom_more (by omega) hlow hhigh,
      decodeFrom_last (c := c) (by omega) (by omega) (by omega) (by omega)]
  · obtain ⟨low, high, hlead, hlow, hhigh⟩ := lead?_four (n := c.toNat) (by omega) (by omega)
    simp only [List.cons_append, List.nil_append]
    rw [decodeUtf8_lead (by omega) (by omega) hlead, decodeFrom_more (by omega) hlow hhigh,
      decodeFrom_more (by omega) (by omega) (by omega),
      decodeFrom_last (c := c) (by omega) (by omega) (by omega) (by omega)]

theorem encodeUtf8_append (s t : List Char) : encodeUtf8 (s ++ t) = encodeUtf8 s ++ encodeUtf8 t :=
  List.flatMap_append

theorem decodeUtf8_encodeUtf8 (s : List Char) : decodeUtf8 (encodeUtf8 s) = s := by
  induction s with
  | nil => rfl
  | cons c s ih =>
    have hcons : encodeUtf8 (c :: s) = encodeChar c ++ encodeUtf8 s := List.flatMap_cons
    rw [hcons, decodeUtf8_encodeChar, ih]

/-! ### The octets of a string -/

theorem encodeChar_eq (c : Char) : encodeChar c = String.utf8EncodeChar c := by
  have hvalid := valid_toNat c
  have hnat : c.val.toNat = c.toNat := rfl
  simp only [encodeChar, String.utf8EncodeChar, hnat, Nat.add_comm]
  by_cases hone : c.toNat < 0x80
  · rw [if_pos hone, if_pos (by omega)]
  rw [if_neg hone, if_neg (by omega : ¬ c.toNat ≤ 127)]
  by_cases htwo : c.toNat < 0x800
  · rw [if_pos htwo, if_pos (by omega), Nat.mod_eq_of_lt (by omega : c.toNat / 64 < 32)]
  rw [if_neg htwo, if_neg (by omega : ¬ c.toNat ≤ 2047)]
  by_cases hthree : c.toNat < 0x10000
  · rw [if_pos hthree, if_pos (by omega), Nat.mod_eq_of_lt (by omega : c.toNat / 4096 < 16)]
  · rw [if_neg hthree, if_neg (by omega), Nat.mod_eq_of_lt (by omega : c.toNat / 262144 < 8)]

theorem encodeUtf8_toList (s : String) : encodeUtf8 s.toList = s.toUTF8.data.toList := by
  rw [String.toUTF8_eq_toByteArray, ← String.utf8Encode_toList, List.utf8Encode,
    List.toList_data_toByteArray, encodeUtf8, funext encodeChar_eq]

end Allowlist.Text
