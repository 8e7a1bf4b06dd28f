import Allowlist.Number
import Allowlist.Proofs.Text.Decimal
import Allowlist.Text.Scan

/-! # What scanners read

A scanner that succeeds reads a value off the front of a text, and the rest is left for the one
after it. Numbers that are filled with zeros up to a width are read at that width whatever follows,
and any run of digits up to the first character that is none. -/

namespace Allowlist.Text

/-! ### Filling with zeros -/

theorem length_decimal_le {width n : Nat} (h : n < tenPow (width + 1)) :
    (decimal n).length ≤ width + 1 := by
  induction width generalizing n with
  | zero => simp [decimal_of_lt (show n < 10 from h)]
  | succ width ih =>
    rcases Nat.lt_or_ge n 10 with hn | hn
    · rw [decimal_of_lt hn, List.length_singleton]
      omega
    · have hlength := ih (n := n / 10) (Nat.div_lt_of_lt_mul (by rwa [Nat.mul_comm]))
      rw [decimal_of_le hn, List.length_append, List.length_singleton]
      omega

theorem length_zeroPadded {width n : Nat} (h : n < tenPow (width + 1)) :
    (zeroPadded (width + 1) n).length = width + 1 := by
  have hlength := length_decimal_le h
  simp only [zeroPadded, List.length_append, List.length_replicate]
  omega

theorem isDigit_of_mem_zeroPadded {width n : Nat} {c : Char} (h : c ∈ zeroPadded width n) :
    isDigit c = true := by
  rcases List.mem_append.mp h with h | h
  · exact List.eq_of_mem_replicate h ▸ rfl
  · exact isDigit_of_mem_decimal h

theorem isDigit_of_head_zeroPadded {width n : Nat} {c : Char} {rest : List Char}
    (h : c ∈ (zeroPadded width n ++ rest).head?) : isDigit c = true := by
  obtain ⟨d, digits, hdigits⟩ := List.exists_cons_of_ne_nil
    (show zeroPadded width n ≠ [] by simp [zeroPadded, decimal_ne_nil])
  have hd : d ∈ zeroPadded width n := hdigits ▸ List.mem_cons_self ..
  rw [hdigits] at h
  exact Option.some.inj h ▸ isDigit_of_mem_zeroPadded hd

theorem ofDigits_zeroPadded (width n : Nat) :
    ofDigits 10 ((zeroPadded width n).filterMap digit?) = n := by
  have hzeros (k : Nat) : ofDigits 10 ((List.replicate k '0').filterMap digit?) = 0 := by
    induction k with
    | zero => rfl
    | succ k ih => exact ih
  rw [zeroPadded, List.filterMap_append, ofDigits_append, hzeros]
  exact ofDigits_decimal n

theorem length_filterMap_digit? {s : List Char} (h : ∀ c ∈ s, isDigit c = true) :
    (s.filterMap digit?).length = s.length := by
  induction s with
  | nil => rfl
  | cons c s ih =>
    obtain ⟨d, hd⟩ := Option.isSome_iff_exists.mp (h c (List.mem_cons_self ..))
    rw [List.filterMap_cons_some hd, List.length_cons, List.length_cons,
      ih fun c hc => h c (List.mem_cons_of_mem _ hc)]

namespace Scan

/-- The scanner reads the value off the front of the text and hands on the rest. -/
def Reads {α : Type} (scan : Scan α) (s : List Char) (a : α) (rest : List Char) : Prop :=
  scan s = some (a, rest)

namespace Reads

variable {α β : Type} {s rest : List Char}

theorem pure (a : α) : Reads (Pure.pure a) s a s := rfl

theorem bind {scan : Scan α} {next : α → Scan β} {a : α} {b : β} {middle : List Char}
    (h : Reads scan s a middle) (hnext : Reads (next a) middle b rest) :
    Reads (scan >>= next) s b rest := by
  show (scan s >>= fun p => next p.1 p.2) = some (b, rest)
  rw [show scan s = some (a, middle) from h]
  exact hnext

theorem whole {scan : Scan α} {a : α} (h : Reads scan s a []) : scan.whole s = some a := by
  rw [Scan.whole, show scan s = some (a, []) from h]

theorem charIf {p : Char → Bool} {c : Char} (h : p c = true) : Reads (charIf p) (c :: s) c s := by
  rw [Reads, Scan.charIf, if_pos h]

theorem char (c : Char) : Reads (char c) (c :: s) () s :=
  (charIf (by simp)).bind (.pure ())

theorem peek : Reads peek s s.head? s := rfl

theorem require {p : Prop} [Decidable p] (h : p) : Reads (require p) s () s := by
  rw [Scan.require, if_pos h]
  exact .pure ()

theorem skip {p : Char → Bool} (h : ∀ c ∈ s.head?, p c = false) : Reads (skip p) s () s := by
  rw [Reads, Scan.skip, dropWhile_of_head? h]

theorem digits {least most : Nat} {run : List Char} (hrun : ∀ c ∈ run, isDigit c = true)
    (hleast : least ≤ run.length) (hmost : run.length ≤ most)
    (hrest : run.length = most ∨ ∀ c ∈ rest.head?, isDigit c = false) :
    Reads (digits least most) (run ++ rest) (run.filterMap digit?) rest := by
  have htake : ((run ++ rest).take most).takeWhile isDigit = run := by
    rw [List.take_append, List.take_of_length_le hmost]
    refine takeWhile_append_of_all hrun fun c hc => ?_
    rcases hrest with hfull | hrest
    · rw [hfull, Nat.sub_self, List.take_zero] at hc
      exact absurd hc (by simp)
    · refine hrest c ?_
      rw [List.head?_take] at hc
      split at hc
      · exact absurd hc (by simp)
      · exact hc
  simp only [Reads, Scan.digits, htake]
  rw [if_neg (Nat.not_lt.mpr hleast), List.drop_left]

theorem number {least most : Nat} {run : List Char} (hrun : ∀ c ∈ run, isDigit c = true)
    (hleast : least ≤ run.length) (hmost : run.length ≤ most)
    (hrest : run.length = most ∨ ∀ c ∈ rest.head?, isDigit c = false) :
    Reads (number least most) (run ++ rest) (ofDigits 10 (run.filterMap digit?)) rest :=
  (digits hrun hleast hmost hrest).bind (.pure _)

theorem number_zeroPadded {least width n : Nat} (h : n < tenPow (width + 1))
    (hleast : least ≤ width + 1) :
    Reads (Scan.number least (width + 1)) (zeroPadded (width + 1) n ++ rest) n rest := by
  have hlength := length_zeroPadded h
  have hreads : Reads (Scan.number least (width + 1)) (zeroPadded (width + 1) n ++ rest) _ rest :=
    number (fun _ => isDigit_of_mem_zeroPadded) (by omega) (by omega) (.inl hlength)
  rwa [ofDigits_zeroPadded] at hreads

theorem longNumber_zeroPadded (width n : Nat) (hrest : ∀ c ∈ rest.head?, isDigit c = false) :
    Reads longNumber (zeroPadded width n ++ rest) n rest := by
  have hpos : 0 < (decimal n).length := List.length_pos_iff.mpr (decimal_ne_nil n)
  have hleast : 1 ≤ (zeroPadded width n).length := by
    rw [zeroPadded, List.length_append]
    omega
  have hmost : (zeroPadded width n).length ≤ (zeroPadded width n ++ rest).length := by
    rw [List.length_append]
    omega
  have hreads := number (fun _ => isDigit_of_mem_zeroPadded) hleast hmost (.inr hrest)
  rw [ofDigits_zeroPadded] at hreads
  -- the text that is left is read first, for its length
  have hget : Reads (get : Scan (List Char)) (zeroPadded width n ++ rest) (zeroPadded width n ++ rest)
    (zeroPadded width n ++ rest) := rfl
  exact hget.bind hreads

end Reads

/-- Whatever the scanner reads has the property. -/
def Yields {α : Type} (p : α → Prop) (scan : Scan α) : Prop :=
  ∀ ⦃s a rest⦄, scan s = some (a, rest) → p a

namespace Yields

variable {α β : Type} {p : β → Prop}

theorem bind {scan : Scan α} {next : α → Scan β} (h : ∀ a, Yields p (next a)) :
    Yields p (scan >>= next) := by
  intro s b rest hread
  obtain ⟨⟨a, middle⟩, -, hnext⟩ := Option.bind_eq_some_iff.mp
    (show (scan s).bind (fun r => next r.1 r.2) = some (b, rest) from hread)
  exact h a hnext

theorem whole {scan : Scan β} (h : Yields p scan) {s : List Char} {b : β}
    (hread : scan.whole s = some b) : p b := by
  unfold Scan.whole at hread
  split at hread
  · next b' hscan => exact Option.some.inj hread ▸ h hscan
  · cases hread

end Yields

end Scan

end Allowlist.Text
