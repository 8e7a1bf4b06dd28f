import Allowlist.Json.Raw
import Allowlist.Proofs.Text.Hexadecimal

/-! # Rendered JSON is read back

Every character of a rendered string is read as itself, escaped or not, up to the closing quote. An
integer is rendered without leading zeros, so all its digits belong to one numeral, which ends
where no digit, point or exponent follows. -/

namespace Allowlist.Json

open Text

/-! ### Strings -/

theorem codeUnit?_fixedWidth {n : Nat} (h : n < 0x10000) : ∃ a b c d,
    fixedWidth 16 4 n = [a, b, c, d] ∧ Raw.codeUnit? a b c d = some n := by
  have hdigit (k : Nat) : hexDigit? (digitChar (k % 16)) = some (k % 16) :=
    hexDigit?_digitChar (Nat.mod_lt k (by decide))
  refine ⟨_, _, _, _, rfl, ?_⟩
  simp only [Raw.codeUnit?, hdigit, Option.bind_eq_bind, Option.bind_some, Option.pure_def,
    ofDigits, List.foldl_cons, List.foldl_nil, Option.some_inj]
  omega

/-- A character is rendered by a letter of its own, by its number, or as it is. -/
theorem escapeChar_cases (c : Char) :
    (∃ e, escapeChar c = ['\\', e] ∧ Raw.simpleEscape? e = some c) ∨
      (c.toNat < 0x20 ∧ escapeChar c = ['\\', 'u'] ++ fixedWidth 16 4 c.toNat) ∨
      (¬ c.toNat < 0x20 ∧ c ≠ '"' ∧ c ≠ '\\' ∧ escapeChar c = [c]) := by
  unfold escapeChar
  split
  · next h => exact .inl ⟨'"', rfl, by rw [h]; rfl⟩
  next hquote =>
  split
  · next h => exact .inl ⟨'\\', rfl, by rw [h]; rfl⟩
  next hbackslash =>
  split
  · next h => exact .inl ⟨'b', rfl, h ▸ rfl⟩
  split
  · next h => exact .inl ⟨'t', rfl, h ▸ rfl⟩
  split
  · next h => exact .inl ⟨'n', rfl, h ▸ rfl⟩
  split
  · next h => exact .inl ⟨'f', rfl, h ▸ rfl⟩
  split
  · next h => exact .inl ⟨'r', rfl, h ▸ rfl⟩
  split
  · next h => exact .inr (.inl ⟨h, rfl⟩)
  · next h => exact .inr (.inr ⟨h, hquote, hbackslash, rfl⟩)

namespace Raw

variable {rest : List Char}

theorem readString_simple {e c : Char} (h : simpleEscape? e = some c) :
    readString none ('\\' :: e :: rest) =
      (readString none rest).map fun r => (r.1.map (c :: ·), r.2) := by
  have hu : e ≠ 'u' := by
    rintro rfl
    cases h
  rw [readString, h]
  · simp
  · exact fun _ _ _ _ _ heq => absurd heq hu

theorem readString_unit {a b c d : Char} {n : Nat} (h : codeUnit? a b c d = some n)
    (hn : n < 0xD800) :
    readString none ('\\' :: 'u' :: a :: b :: c :: d :: rest) =
      (readString none rest).map fun r => (r.1.map (Char.ofNat n :: ·), r.2) := by
  have hlow : ¬ (0xDC00 ≤ n ∧ n < 0xE000) := by omega
  rw [readString, h]
  simp only [if_neg (show ¬ (0xD800 ≤ n ∧ n < 0xDC00) by omega), if_neg hlow]
  cases readString none rest <;> rfl

theorem readString_plain {c : Char} (hcontrol : ¬ c.toNat < 0x20) (hquote : c ≠ '"')
    (hbackslash : c ≠ '\\') :
    readString none (c :: rest) = (readString none rest).map fun r => (r.1.map (c :: ·), r.2) := by
  rw [readString, if_neg (not_or.mpr ⟨hbackslash, hcontrol⟩)]
  · simp
  · exact hquote
  · exact fun _ _ _ _ _ h => absurd h hbackslash
  · exact fun _ _ h => absurd h hbackslash

theorem readString_escapeChar (c : Char) : readString none (escapeChar c ++ rest) =
    (readString none rest).map fun r => (r.1.map (c :: ·), r.2) := by
  rcases escapeChar_cases c with ⟨e, heq, h⟩ | ⟨hcontrol, heq⟩ | ⟨hcontrol, hquote, hbackslash, heq⟩
  · rw [heq]
    exact readString_simple h
  · obtain ⟨x, y, z, w, hdigits, hunit⟩ := codeUnit?_fixedWidth (n := c.toNat) (by omega)
    rw [heq, hdigits]
    refine (readString_unit hunit (by omega)).trans ?_
    rw [Char.ofNat_toNat, List.append_eq, List.nil_append]
  · rw [heq]
    exact readString_plain hcontrol hquote hbackslash

theorem readString_flatMap (content : List Char) :
    readString none (content.flatMap escapeChar ++ '"' :: rest) = some (some content, rest) := by
  induction content with
  | nil => rw [List.flatMap_nil, List.nil_append, readString]; rfl
  | cons c content ih => rw [List.flatMap_cons, List.append_assoc, readString_escapeChar, ih]; rfl

end Raw

/-! ### Numerals -/

/-- The numeral of an integer: its digits and a sign, nothing after them. -/
def Numeral.ofInt (i : Int) : Numeral where
  negative := decide (i < 0)
  whole := (decimal i.natAbs).filterMap digit?
  fraction := []
  exponent := none

theorem Numeral.toNumber?_ofInt {i : Int} (hmin : minInt64 ≤ i) (hmax : i < wordCount) :
    (Numeral.ofInt i).toNumber? = some (.integer i) := by
  rw [toNumber?, if_pos ⟨rfl, rfl⟩]
  simp only [ofInt, ofDigits_decimal, decide_eq_true_eq]
  split
  · next hneg =>
    have habs : -(i.natAbs : Int) = i := by omega
    have hmax64 : i ≤ maxInt64 := by
      unfold maxInt64
      omega
    rw [habs, if_pos ⟨by omega, by simp [isInt64, hmin, hmax64]⟩]
  · next hpos =>
    have habs : (i.natAbs : Int) = i := by omega
    rw [if_pos (by omega), habs]

/-- The digits of a number start with a zero only if that is all of them. -/
theorem exists_digits_decimal (n : Nat) :
    ∃ d ds, (decimal n).filterMap digit? = d :: ds ∧ (d = 0 → ds = []) := by
  induction n using Nat.strongRecOn with
  | _ n ih =>
    rcases Nat.lt_or_ge n 10 with hn | hn
    · exact ⟨n, [], by simp [decimal_of_lt hn, digit?_digitChar hn], fun _ => rfl⟩
    · obtain ⟨d, ds, hdigits, hzero⟩ := ih (n / 10) (by omega)
      have hlast := digit?_digitChar (Nat.mod_lt n (by decide : 10 > 0))
      refine ⟨d, ds ++ [n % 10], ?_, fun hd => ?_⟩
      · rw [decimal_of_le hn, List.filterMap_append, hdigits, List.filterMap_cons_some hlast]; rfl
      · -- a leading zero would be the whole of the digits in front of the last one
        have hvalue := ofDigits_decimal (n / 10)
        rw [hdigits, hd, hzero hd] at hvalue
        have hquotient : 0 = n / 10 := hvalue
        omega

namespace Raw

variable {rest : List Char}

/-- What follows does not go on with a numeral. -/
def EndsNumeral (rest : List Char) : Prop :=
  ∀ c ∈ rest.head?, isDigit c = false ∧ c ≠ '.' ∧ c ≠ 'e' ∧ c ≠ 'E'

theorem readWhole_decimal (n : Nat) (hrest : ∀ c ∈ rest.head?, isDigit c = false) :
    readWhole (decimal n ++ rest) = some ((decimal n).filterMap digit?, rest) := by
  obtain ⟨d, ds, hdigits, hzero⟩ := exists_digits_decimal n
  rw [readWhole, takeDigits_decimal_append n hrest, hdigits]
  cases ds with
  | nil => cases d <;> rfl
  | cons e ds =>
    cases d with
    | zero => exact absurd (hzero rfl) (List.cons_ne_nil e ds)
    | succ d => rfl

theorem readFraction_of_ends (h : EndsNumeral rest) : readFraction rest = some ([], rest) := by
  unfold readFraction
  split
  · exact absurd rfl (h '.' rfl).2.1
  · rfl

theorem readExponent_of_ends (h : EndsNumeral rest) : readExponent rest = some (none, rest) := by
  cases rest with
  | nil => rfl
  | cons c rest =>
    obtain ⟨-, -, hsmall, hlarge⟩ := h c rfl
    rw [readExponent, if_neg (not_or.mpr ⟨hsmall, hlarge⟩)]

theorem readNumeral_signedDecimal (i : Int) (h : EndsNumeral rest) :
    readNumeral (signedDecimal i ++ rest) = some (.ofInt i, rest) := by
  have hwhole := readWhole_decimal i.natAbs (fun c hc => (h c hc).1)
  unfold signedDecimal
  split
  · next hneg =>
    simp only [readNumeral, List.cons_append, hwhole, readFraction_of_ends h, readExponent_of_ends h,
      Option.bind_eq_bind, Option.bind_some, Option.pure_def, Numeral.ofInt, hneg, decide_true]
  · next hpos =>
    obtain ⟨c, digits, hdigits, hdigit⟩ := exists_decimal i.natAbs
    have hsign : c ≠ '-' := by
      rintro rfl
      exact absurd hdigit (by decide)
    rw [Numeral.ofInt, decide_eq_false hpos]
    rw [hdigits, List.cons_append] at hwhole ⊢
    unfold readNumeral
    split
    next heq =>
    split at heq
    · next hminus => exact absurd (List.cons.inj hminus).1 hsign
    · cases heq
      simp only [hwhole, readFraction_of_ends h, readExponent_of_ends h, Option.bind_eq_bind,
        Option.bind_some, Option.pure_def]

/-! ### Values -/

theorem skipSpace_cons {c : Char} (h : isSpace c = false) : skipSpace (c :: rest) = c :: rest :=
  List.dropWhile_cons_of_neg (by simp [h])

theorem readValue_string (fuel : Nat) (s : String) :
    readValue (fuel + 1) (renderString s ++ rest) = some (.string (some s), rest) := by
  have hstring : readString none (s.toList.flatMap escapeChar ++ '"' :: rest) =
    some (some s.toList, rest) := readString_flatMap s.toList
  simp only [renderString, List.cons_append, List.append_assoc, List.nil_append]
  rw [readValue, skipSpace_cons (by decide)]
  simp only [hstring, Option.map_some, String.ofList_toList]

theorem readValue_integer (fuel : Nat) (i : Int) (h : EndsNumeral rest) :
    readValue (fuel + 1) (signedDecimal i ++ rest) = some (.number (.ofInt i), rest) := by
  have hnumeral := readNumeral_signedDecimal i h
  obtain ⟨c, digits, hdigits, hc⟩ := exists_signedDecimal i
  -- no other value starts with a digit or a sign, and no blank is one
  have hother {m : Char} {s s' : List Char} (heq : c :: s = m :: s')
      (hm : ¬ (m = '-' ∨ isDigit m = true)) : False := hm ((List.cons.inj heq).1 ▸ hc)
  have hspace : isSpace c = false := by
    refine Bool.eq_false_iff.mpr fun hblank => ?_
    simp only [isSpace, Bool.or_eq_true, decide_eq_true_eq] at hblank
    rcases hblank with ((rfl | rfl) | rfl) | rfl <;> exact absurd hc (by decide)
  rw [hdigits, List.cons_append] at hnumeral ⊢
  rw [readValue, skipSpace_cons hspace]
  split
  · next heq => exact (hother heq (by decide)).elim
  · next heq => exact (hother heq (by decide)).elim
  · next heq => exact (hother heq (by decide)).elim
  · next heq => exact (hother heq (by decide)).elim
  · next heq => exact (hother heq (by decide)).elim
  · next heq => exact (hother heq (by decide)).elim
  · rw [hnumeral, Option.map_some]

theorem parse?_of_readValue {s : List Char} {v : Raw}
    (h : ∀ fuel, readValue (fuel + 1) (s ++ []) = some (v, [])) : parse? s = some v := by
  simp only [List.append_nil] at h
  rw [parse?, h]; rfl

theorem parse?_renderString (s : String) : parse? (renderString s) = some (.string (some s)) :=
  parse?_of_readValue fun fuel => readValue_string fuel s

theorem parse?_signedDecimal (i : Int) : parse? (signedDecimal i) = some (.number (.ofInt i)) :=
  parse?_of_readValue fun fuel => readValue_integer fuel i nofun

end Raw

end Allowlist.Json
