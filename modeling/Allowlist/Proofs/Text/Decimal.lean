import Allowlist.Text.Digits

/-! # Decimal texts are read back

The digits of a written number are its decimal digits: `takeDigits` stops behind them and finds the
number that was written, whatever follows, as long as that does not start with another digit. They
are the digits that `toString` writes. -/

namespace Allowlist.Text

theorem digit?_of_mem {c : Char} (h : '0' ≤ c ∧ c ≤ '9') :
    digit? c = some (c.toNat - '0'.toNat) := by
  rw [digit?, if_pos h]; rfl

theorem isDigit_iff {c : Char} : isDigit c = true ↔ '0' ≤ c ∧ c ≤ '9' := by
  unfold isDigit digit?
  split <;> simp [*]

theorem digit?_digitChar {d : Nat} (h : d < 10) : digit? (digitChar d) = some d := by
  match d, h with
  | 0, _ | 1, _ | 2, _ | 3, _ | 4, _ | 5, _ | 6, _ | 7, _ | 8, _ | 9, _ => rfl

theorem isDigit_digitChar {d : Nat} (h : d < 10) : isDigit (digitChar d) = true := by
  rw [isDigit, digit?_digitChar h]; rfl

theorem decimal_of_lt {n : Nat} (h : n < 10) : decimal n = [digitChar n] := by
  rw [decimal, if_pos h]

theorem decimal_of_le {n : Nat} (h : 10 ≤ n) :
    decimal n = decimal (n / 10) ++ [digitChar (n % 10)] := by
  rw [decimal, if_neg (by omega)]

theorem decimal_ne_nil (n : Nat) : decimal n ≠ [] := by
  rw [decimal]; split <;> simp

theorem isDigit_of_mem_decimal {n : Nat} {c : Char} (h : c ∈ decimal n) : isDigit c = true := by
  induction n using Nat.strongRecOn with
  | _ n ih =>
    rcases Nat.lt_or_ge n 10 with hn | hn
    · rw [decimal_of_lt hn, List.mem_singleton] at h
      exact h ▸ isDigit_digitChar hn
    · rw [decimal_of_le hn, List.mem_append, List.mem_singleton] at h
      rcases h with h | rfl
      · exact ih (n / 10) (by omega) h
      · exact isDigit_digitChar (Nat.mod_lt _ (by omega))

theorem exists_decimal (n : Nat) : ∃ c digits, decimal n = c :: digits ∧ isDigit c = true := by
  obtain ⟨c, digits, hdigits⟩ := List.exists_cons_of_ne_nil (decimal_ne_nil n)
  exact ⟨c, digits, hdigits, isDigit_of_mem_decimal (n := n) (hdigits ▸ List.mem_cons_self ..)⟩

theorem exists_signedDecimal (i : Int) :
    ∃ c digits, signedDecimal i = c :: digits ∧ (c = '-' ∨ isDigit c = true) := by
  unfold signedDecimal
  split
  · exact ⟨'-', _, rfl, .inl rfl⟩
  · obtain ⟨c, digits, hdigits, hc⟩ := exists_decimal i.natAbs
    exact ⟨c, digits, hdigits, .inr hc⟩

theorem ofDigits_append (base : Nat) (xs ys : List Nat) :
    ofDigits base (xs ++ ys) = ys.foldl (fun n d => n * base + d) (ofDigits base xs) :=
  List.foldl_append

theorem ofDigits_decimal (n : Nat) : ofDigits 10 ((decimal n).filterMap digit?) = n := by
  induction n using Nat.strongRecOn with
  | _ n ih =>
    rcases Nat.lt_or_ge n 10 with hn | hn
    · simp [decimal_of_lt hn, digit?_digitChar hn, ofDigits]
    · rw [decimal_of_le hn, List.filterMap_append, ofDigits_append, ih (n / 10) (by omega)]
      simp only [List.filterMap_cons, digit?_digitChar (Nat.mod_lt n (by omega : 10 > 0)),
        List.filterMap_nil, List.foldl_cons, List.foldl_nil]
      omega

theorem takeWhile_append_of_all {α : Type} {p : α → Bool} {xs rest : List α}
    (hxs : ∀ x ∈ xs, p x = true) (hrest : ∀ x ∈ rest.head?, p x = false) :
    (xs ++ rest).takeWhile p = xs := by
  rw [List.takeWhile_append_of_pos hxs]
  cases rest with
  | nil => simp
  | cons x rest => simp [hrest x rfl]

theorem dropWhile_of_head? {α : Type} {p : α → Bool} {s : List α} (h : ∀ x ∈ s.head?, p x = false) :
    s.dropWhile p = s := by
  cases s with
  | nil => rfl
  | cons x rest => exact List.dropWhile_cons_of_neg (by simp [h x rfl])

theorem dropWhile_append_of_all {α : Type} {p : α → Bool} {xs rest : List α}
    (hxs : ∀ x ∈ xs, p x = true) (hrest : ∀ x ∈ rest.head?, p x = false) :
    (xs ++ rest).dropWhile p = rest := by
  rw [List.dropWhile_append_of_pos hxs, dropWhile_of_head? hrest]

/-- A run of digits is taken up to the first character that is none. -/
theorem takeDigits_append {digits rest : List Char} (hdigits : ∀ c ∈ digits, isDigit c = true)
    (hrest : ∀ c ∈ rest.head?, isDigit c = false) :
    takeDigits (digits ++ rest) = (digits.filterMap digit?, rest) := by
  rw [takeDigits, takeWhile_append_of_all hdigits hrest, dropWhile_append_of_all hdigits hrest]

theorem takeDigits_decimal_append (n : Nat) {rest : List Char}
    (hrest : ∀ c ∈ rest.head?, isDigit c = false) :
    takeDigits (decimal n ++ rest) = ((decimal n).filterMap digit?, rest) :=
  takeDigits_append (fun _ => isDigit_of_mem_decimal) hrest

theorem takeDigits_decimal (n : Nat) :
    takeDigits (decimal n) = ((decimal n).filterMap digit?, []) := by
  have hnil : ∀ c ∈ ([] : List Char).head?, isDigit c = false := by simp
  simpa using takeDigits_decimal_append n hnil

theorem digits_decimal_ne_nil (n : Nat) : (decimal n).filterMap digit? ≠ [] := by
  cases h : decimal n with
  | nil => exact absurd h (decimal_ne_nil n)
  | cons c rest =>
    have hc : isDigit c = true := isDigit_of_mem_decimal (n := n) (by simp [h])
    obtain ⟨d, hd⟩ := Option.isSome_iff_exists.mp hc
    simp [hd]

theorem natural?_decimal (n : Nat) : natural? (decimal n) = some n := by
  have hdigits : (decimal n).all isDigit = true := List.all_eq_true.mpr fun _ => isDigit_of_mem_decimal
  rw [natural?, if_pos ⟨decimal_ne_nil n, hdigits⟩, ofDigits_decimal]

theorem digitChar_eq {d : Nat} (h : d < 16) : digitChar d = Nat.digitChar d := by
  match d, h with
  | 0, _ | 1, _ | 2, _ | 3, _ | 4, _ | 5, _ | 6, _ | 7, _ | 8, _ | 9, _ | 10, _ | 11, _ | 12, _
  | 13, _ | 14, _ | 15, _ => rfl
  | _ + 16, h => exact absurd h (by omega)

theorem decimal_eq_toDigits (n : Nat) : decimal n = Nat.toDigits 10 n := by
  induction n using Nat.strongRecOn with
  | _ n ih =>
    rcases Nat.lt_or_ge n 10 with hn | hn
    · rw [decimal_of_lt hn, Nat.toDigits_of_lt_base hn, digitChar_eq (by omega)]
    · rw [decimal_of_le hn, Nat.toDigits_of_base_le (by decide) hn, ih (n / 10) (by omega),
        digitChar_eq (by omega)]

theorem ofList_signedDecimal (i : Int) : String.ofList (signedDecimal i) = toString i := by
  cases i with
  | ofNat n =>
    have hsign : ¬ (Int.ofNat n < 0) := Int.not_lt.mpr (Int.natCast_nonneg n)
    rw [signedDecimal, if_neg hsign, decimal_eq_toDigits]; rfl
  | negSucc n =>
    rw [signedDecimal, if_pos (Int.negSucc_lt_zero n), decimal_eq_toDigits, ← List.singleton_append,
      String.ofList_append]
    rfl

end Allowlist.Text
