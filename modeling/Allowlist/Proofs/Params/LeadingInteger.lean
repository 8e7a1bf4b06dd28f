import Allowlist.Params.LeadingInteger
import Allowlist.Proofs.Text.Blank

/-! # What a leading integer is

Saturating after every digit amounts to saturating once at the end: `appendDigit` over a run of
digits gives the saturated integer that sign and digits denote. So a leading integer is always one
of 64 bits, and the decimal text of a number that fits is read back. Every text `StartsAs` blanks,
sign and digits in one way only, and these alone decide its leading integer. -/

namespace Allowlist

open Text

theorem minInt64_le_saturate (i : Int) : minInt64 ≤ saturate i := Int.le_max_left ..

theorem saturate_le_maxInt64 (i : Int) : saturate i ≤ maxInt64 := by
  simp only [saturate, minInt64, maxInt64]; omega

theorem saturate_of_mem {i : Int} (h : minInt64 ≤ i) (h' : i ≤ maxInt64) : saturate i = i := by
  simp only [saturate, minInt64, maxInt64] at *; omega

theorem cutSign_fst (s : List Char) : (cutSign s).1 = 1 ∨ (cutSign s).1 = -1 := by
  unfold cutSign; split <;> simp

/-- One more digit on a number that has been saturated is one more digit on the number itself. -/
theorem appendDigit_saturate {sign : Int} (hs : sign = 1 ∨ sign = -1) (n d : Nat) :
    appendDigit sign (saturate (sign * n)) d = saturate (sign * (n * 10 + d : Nat)) := by
  rcases hs with rfl | rfl <;> simp only [appendDigit, saturate, minInt64, maxInt64] <;> omega

theorem foldl_appendDigit {sign : Int} (hs : sign = 1 ∨ sign = -1) (digits : List Nat) (n : Nat) :
    digits.foldl (appendDigit sign) (saturate (sign * n)) =
      saturate (sign * (digits.foldl (fun n d => n * 10 + d) n : Nat)) := by
  induction digits generalizing n with
  | nil => rfl
  | cons d rest ih => rw [List.foldl_cons, appendDigit_saturate hs, ih]; rfl

theorem foldl_appendDigit_zero {sign : Int} (hs : sign = 1 ∨ sign = -1) (digits : List Nat) :
    digits.foldl (appendDigit sign) 0 = saturate (sign * (ofDigits 10 digits : Nat)) := by
  have h := foldl_appendDigit hs digits 0
  rwa [saturate_of_mem (by simp [minInt64]) (by simp [maxInt64]), Int.natCast_zero,
    Int.mul_zero] at h

/-- The leading integer of a text is the saturated integer of its sign and its digits. -/
theorem leadingInteger?_eq (s : String) :
    leadingInteger? s =
      if (takeDigits (cutSign (trimStart s.toList)).2).1 = [] then none
      else some (saturate ((cutSign (trimStart s.toList)).1 *
        (ofDigits 10 (takeDigits (cutSign (trimStart s.toList)).2).1 : Nat))) := by
  simp only [leadingInteger?]
  split
  · next h => rw [if_pos h]
  · next h => rw [if_neg h, foldl_appendDigit_zero (cutSign_fst _)]

theorem leadingInteger?_mem {s : String} {i : Int} (h : leadingInteger? s = some i) :
    minInt64 ≤ i ∧ i ≤ maxInt64 := by
  rw [leadingInteger?_eq] at h
  split at h
  · cases h
  · cases h; exact ⟨minInt64_le_saturate _, saturate_le_maxInt64 _⟩

theorem trimStart_of_isDigit {s : List Char} (h : ∀ c ∈ s.head?, isDigit c = true) :
    trimStart s = s :=
  dropWhile_of_head? fun c hc => not_isBlank_of_isDigit (h c hc)

theorem cutSign_of_isDigit {s : List Char} (h : ∀ c ∈ s.head?, isDigit c = true) :
    cutSign s = (1, s) := by
  unfold cutSign
  split
  · exact absurd (h '-' rfl) (by decide)
  · exact absurd (h '+' rfl) (by decide)
  · rfl

theorem leadingInteger?_decimal {n : Nat} (h : (n : Int) ≤ maxInt64) :
    leadingInteger? (String.ofList (decimal n)) = some (n : Int) := by
  have hd : ∀ c ∈ (decimal n).head?, isDigit c = true :=
    fun c hc => isDigit_of_mem_decimal (List.mem_of_mem_head? hc)
  rw [leadingInteger?_eq, String.toList_ofList, trimStart_of_isDigit hd, cutSign_of_isDigit hd,
    takeDigits_decimal, if_neg (digits_decimal_ne_nil n), ofDigits_decimal, Int.one_mul,
    saturate_of_mem (by simp only [minInt64]; omega) h]

/-! ## The parts of a text -/

/-- The number that a run of decimal digits denotes, each digit by its place. -/
def placeValue : List Char → Nat
  | [] => 0
  | c :: rest => (c.toNat - '0'.toNat) * tenPow rest.length + placeValue rest

/-- The integer that a sign and digits denote. -/
def signedValue (sign digits : List Char) : Int :=
  if sign = ['-'] then -(placeValue digits : Int) else placeValue digits

/-- A text starts with blanks, at most one sign and digits, each part as far as it goes. -/
structure StartsAs (s blanks sign digits rest : List Char) : Prop where
  parts : s = blanks ++ (sign ++ (digits ++ rest))
  blank : ∀ c ∈ blanks, isBlank c = true
  sign_cases : sign = [] ∨ sign = ['+'] ∨ sign = ['-']
  digit : ∀ c ∈ digits, '0' ≤ c ∧ c ≤ '9'
  blanks_end : ∀ c ∈ (sign ++ (digits ++ rest)).head?, isBlank c = false
  sign_end : sign = [] → ∀ c ∈ (digits ++ rest).head?, c ≠ '+' ∧ c ≠ '-'
  digits_end : ∀ c ∈ rest.head?, ¬ ('0' ≤ c ∧ c ≤ '9')

theorem foldl_digits {digits : List Char} (h : ∀ c ∈ digits, '0' ≤ c ∧ c ≤ '9') (n : Nat) :
    (digits.filterMap digit?).foldl (fun n d => n * 10 + d) n =
      n * tenPow digits.length + placeValue digits := by
  induction digits generalizing n with
  | nil => simp [placeValue, tenPow]
  | cons c rest ih =>
    obtain ⟨hc, hrest⟩ := List.forall_mem_cons.mp h
    have hpow : tenPow (rest.length + 1) = tenPow rest.length * 10 := rfl
    rw [List.filterMap_cons_some (digit?_of_mem hc), List.foldl_cons, ih hrest, placeValue,
      List.length_cons, hpow, Nat.add_mul, Nat.mul_assoc, Nat.mul_comm 10, Nat.add_assoc]

theorem ofDigits_eq_placeValue {digits : List Char} (h : ∀ c ∈ digits, '0' ≤ c ∧ c ≤ '9') :
    ofDigits 10 (digits.filterMap digit?) = placeValue digits := by
  rw [ofDigits, foldl_digits h, Nat.zero_mul, Nat.zero_add]

theorem filterMap_digit?_eq_nil_iff {digits : List Char} (h : ∀ c ∈ digits, '0' ≤ c ∧ c ≤ '9') :
    digits.filterMap digit? = [] ↔ digits = [] := by
  cases digits with
  | nil => simp
  | cons c rest => simp [digit?_of_mem (h c List.mem_cons_self)]

namespace StartsAs
variable {s blanks sign digits rest : List Char}

theorem trimStart_eq (h : StartsAs s blanks sign digits rest) :
    trimStart s = sign ++ (digits ++ rest) := by
  rw [h.parts, trimStart, dropWhile_append_of_all h.blank h.blanks_end]

theorem cutSign_eq (h : StartsAs s blanks sign digits rest) :
    cutSign (sign ++ (digits ++ rest)) = (if sign = ['-'] then -1 else 1, digits ++ rest) := by
  rcases h.sign_cases with rfl | rfl | rfl
  · have hend := h.sign_end rfl
    rw [List.nil_append, if_neg (by simp)]
    unfold cutSign
    split
    · next heq => exact absurd rfl (hend '-' (by rw [heq]; rfl)).2
    · next heq => exact absurd rfl (hend '+' (by rw [heq]; rfl)).1
    · rfl
  · rfl
  · rfl

theorem takeDigits_eq (h : StartsAs s blanks sign digits rest) :
    takeDigits (digits ++ rest) = (digits.filterMap digit?, rest) := by
  have hdigits : ∀ c ∈ digits, isDigit c = true := fun c hc => isDigit_iff.mpr (h.digit c hc)
  have hrest : ∀ c ∈ rest.head?, isDigit c = false := fun c hc =>
    Bool.eq_false_iff.mpr fun hd => h.digits_end c hc (isDigit_iff.mp hd)
  exact takeDigits_append hdigits hrest

theorem leadingInteger?_eq {s : String} (h : StartsAs s.toList blanks sign digits rest) :
    leadingInteger? s =
      if digits = [] then none
      else some (max minInt64 (min maxInt64 (signedValue sign digits))) := by
  rw [Allowlist.leadingInteger?_eq, h.trimStart_eq, h.cutSign_eq, h.takeDigits_eq,
    ofDigits_eq_placeValue h.digit]
  simp only [filterMap_digit?_eq_nil_iff h.digit]
  have hvalue : (if sign = ['-'] then -1 else 1) * (placeValue digits : Int) =
      signedValue sign digits := by
    unfold signedValue; split <;> omega
  rw [hvalue, saturate]

theorem leadingInteger?_eq_none_iff {s : String} (h : StartsAs s.toList blanks sign digits rest) :
    leadingInteger? s = none ↔ digits = [] := by
  rw [h.leadingInteger?_eq]
  split <;> simp [*]

theorem leadingInteger?_eq_some {s : String} (h : StartsAs s.toList blanks sign digits rest)
    (hdigits : digits ≠ []) :
    leadingInteger? s = some (max minInt64 (min maxInt64 (signedValue sign digits))) := by
  rw [h.leadingInteger?_eq, if_neg hdigits]

end StartsAs

theorem head?_dropWhile {p : Char → Bool} (s : List Char) :
    ∀ c ∈ (s.dropWhile p).head?, p c = false := by
  intro c hc
  have h := List.head?_dropWhile_not p s
  rwa [Option.mem_def.mp hc] at h

/-- What is left of a text behind its blanks, cut at its sign. -/
theorem exists_sign (s : List Char) : ∃ sign after, s = sign ++ after ∧
    (sign = [] ∨ sign = ['+'] ∨ sign = ['-']) ∧
      (sign = [] → ∀ c ∈ after.head?, c ≠ '+' ∧ c ≠ '-') := by
  by_cases h : ∃ after, s = '+' :: after ∨ s = '-' :: after
  · rcases h with ⟨after, rfl | rfl⟩
    · exact ⟨['+'], after, rfl, .inr (.inl rfl), by simp⟩
    · exact ⟨['-'], after, rfl, .inr (.inr rfl), by simp⟩
  · refine ⟨[], s, rfl, .inl rfl, fun _ c hc => ?_⟩
    cases s with
    | nil => cases hc
    | cons d after =>
      obtain rfl : d = c := Option.some.inj hc
      exact ⟨fun hd => h ⟨after, .inl (hd ▸ rfl)⟩, fun hd => h ⟨after, .inr (hd ▸ rfl)⟩⟩

theorem exists_startsAs (s : List Char) :
    ∃ blanks sign digits rest, StartsAs s blanks sign digits rest := by
  obtain ⟨sign, after, hsign, hcases, hend⟩ := exists_sign (s.dropWhile isBlank)
  have hafter : after.takeWhile isDigit ++ after.dropWhile isDigit = after :=
    List.takeWhile_append_dropWhile
  refine ⟨s.takeWhile isBlank, sign, after.takeWhile isDigit, after.dropWhile isDigit, ?_⟩
  exact
    { parts := by rw [hafter, ← hsign, List.takeWhile_append_dropWhile]
      blank := List.all_eq_true.mp List.all_takeWhile
      sign_cases := hcases
      digit := fun c hc => isDigit_iff.mp (List.all_eq_true.mp List.all_takeWhile c hc)
      blanks_end := by rw [hafter, ← hsign]; exact head?_dropWhile s
      sign_end := by rwa [hafter]
      digits_end := fun c hc hd => by
        have hstop := head?_dropWhile after c hc
        rw [isDigit_iff.mpr hd] at hstop
        cases hstop }

end Allowlist
