import Allowlist.Proofs.Text.Blank
import Allowlist.Proofs.Text.Scan
import Allowlist.Proofs.Time.Calendar
import Allowlist.Time.Reader

/-! # The texts of timestamps are read back

The text of an instant shows a date of the calendar, a time of day and a part of a second. The
seconds since 1970 are those of that date and time, where second 60 stands for the last second of a
minute with a part of a second or more. So a reader that finds the parts again finds the instant,
if its year is one of those that are covered and a leap second of it ends a minute; these are also
the only instants that a reader finds. The strict reader knows years of four digits only. -/

namespace Allowlist.Timestamp

open Text Text.Scan

variable (t : Timestamp) {rest zone : List Char}

/-! ### The parts of an instant -/

def hour : Nat := (t.seconds % 86400).toNat / 3600

def minute : Nat := (t.seconds % 86400).toNat / 60 % 60

/-- The second of the minute, which is 60 in a leap second. -/
def second : Nat := (t.seconds % 86400).toNat % 60 + (if 1000000000 ≤ t.nanos then 1 else 0)

/-- The part of a second after the second that is shown. -/
def fraction : Nat := if 1000000000 ≤ t.nanos then t.nanos - 1000000000 else t.nanos

/-- The year is one of those that are covered. -/
def IsCovered : Prop := Date.minYear ≤ t.date.year ∧ t.date.year ≤ Date.maxYear

theorem text_eq (zone : List Char) : t.text zone =
    yearText t.date.year ++ '-' :: (zeroPadded 2 t.date.month ++ '-' :: (zeroPadded 2 t.date.day ++
      'T' :: (zeroPadded 2 t.hour ++ ':' :: (zeroPadded 2 t.minute ++ ':' :: (zeroPadded 2 t.second ++
        (fractionText t.fraction ++ zone)))))) := by
  simp only [text, hour, minute, second, fraction, List.append_assoc,
    List.cons_append, List.nil_append]

theorem month_lt : t.date.month < 100 := by
  have hmonth := Date.month_ofDays (t.seconds / 86400 + epochDay)
  unfold date
  omega

theorem day_lt : t.date.day < 100 := by
  have hday := Date.day_ofDays_le (t.seconds / 86400 + epochDay)
  unfold date
  omega

theorem hour_lt : t.hour < 24 := by
  unfold hour
  omega

theorem minute_lt : t.minute < 60 := by
  unfold minute
  omega

theorem second_le : t.second ≤ 60 := by
  unfold second
  split <;> omega

theorem clock_lt : t.hour < 100 ∧ t.minute < 100 ∧ t.second < 100 :=
  ⟨Nat.lt_trans t.hour_lt (by decide), Nat.lt_trans t.minute_lt (by decide),
    Nat.lt_of_le_of_lt t.second_le (by decide)⟩

theorem fraction_lt : t.fraction < 1000000000 := by
  have hnanos := t.nanos_lt
  unfold fraction
  split <;> omega

theorem second_eq_iff (h : t.LeapsAtMinuteEnd) : t.second = 60 ↔ 1000000000 ≤ t.nanos := by
  unfold LeapsAtMinuteEnd at h
  unfold second
  split <;> omega

theorem isCovered_iff : t.IsCovered ↔ minSeconds ≤ t.seconds ∧ t.seconds < endSeconds := by
  obtain ⟨hle, hlt⟩ := Date.daysBeforeYear_yearOfDays (t.seconds / 86400 + epochDay)
  simp only [IsCovered, date, Date.year_ofDays, minSeconds, endSeconds]
  constructor
  · rintro ⟨hmin, hmax⟩
    have hfirst := Date.daysBeforeYear_mono hmin
    have hlast := Date.daysBeforeYear_mono (Int.add_le_add_right hmax 1)
    omega
  · rintro ⟨hmin, hmax⟩
    exact Date.yearOfDays_bounds (by omega) (by omega)

/-- The instant is in a year that is covered, and a leap second of it ends a minute. -/
structure IsReadable : Prop where
  covered : t.IsCovered
  leap : t.LeapsAtMinuteEnd

theorem of?_self (h : t.IsReadable) : of? t.seconds t.nanos = some t := by
  rw [of?, dif_pos t.nanos_lt, if_pos ⟨h.leap, t.isCovered_iff.mp h.covered⟩]

theorem isReadable_of_of? {t : Timestamp} {seconds : Int} {nanos : Nat}
    (h : of? seconds nanos = some t) : t.IsReadable := by
  unfold of? at h
  split at h
  · dsimp only at h
    split at h
    · next hreadable =>
      obtain rfl := Option.some.inj h
      exact ⟨(isCovered_iff _).mpr hreadable.2, hreadable.1⟩
    · cases h
  · cases h

theorem ofCivil?_parts (h : t.IsReadable) :
    ofCivil? t.date t.hour t.minute t.second t.fraction 0 = some t := by
  have hvalid : t.date.isValid = true := Date.isValid_ofDays h.covered.1 h.covered.2
  have hdays : t.date.toDays = t.seconds / 86400 + epochDay := Date.toDays_ofDays _
  have hnanos := t.nanos_lt
  have hleap : 1000000000 ≤ t.nanos → t.seconds % 60 = 59 := h.leap
  rw [ofCivil?, if_pos ⟨hvalid, t.hour_lt, t.minute_lt, t.second_le, t.fraction_lt⟩, ← t.of?_self h, hdays]
  simp only [t.second_eq_iff h.leap]
  congr 1
  · simp only [hour, minute, second]
    split <;> omega
  · simp only [fraction]
    split <;> omega

/-! ### The part of a second -/

theorem reads_scanNanos {run : List Char} (hrun : ∀ c ∈ run, isDigit c = true)
    (hleast : 1 ≤ run.length) (hmost : run.length ≤ 9) (hrest : ∀ c ∈ rest.head?, isDigit c = false) :
    Reads scanNanos (run ++ rest) (ofDigits 10 (run.filterMap digit?) * tenPow (9 - run.length)) rest := by
  rw [← length_filterMap_digit? hrun]
  exact (Reads.digits hrun hleast hmost (.inr hrest)).bind ((Reads.skip hrest).bind (.pure _))

theorem reads_scanFraction_zeroPadded {width n nanos : Nat} (h : n < tenPow (width + 1))
    (hwidth : width < 9) (hnanos : n * tenPow (8 - width) = nanos)
    (hrest : ∀ c ∈ rest.head?, isDigit c = false) :
    Reads scanFraction ('.' :: zeroPadded (width + 1) n ++ rest) nanos rest := by
  have hlength := length_zeroPadded h
  have hdigits : ∀ c ∈ zeroPadded (width + 1) n, isDigit c = true := fun _ => isDigit_of_mem_zeroPadded
  have hreads := reads_scanNanos hdigits (by omega) (by omega) hrest
  rw [ofDigits_zeroPadded, hlength, show 9 - (width + 1) = 8 - width by omega, hnanos] at hreads
  exact Reads.peek.bind ((Reads.char '.').bind hreads)

theorem reads_scanFraction {nanos : Nat} (h : nanos < 1000000000)
    (hrest : ∀ c ∈ rest.head?, c ≠ '.' ∧ isDigit c = false) :
    Reads scanFraction (fractionText nanos ++ rest) nanos rest := by
  have hdigit : ∀ c ∈ rest.head?, isDigit c = false := fun c hc => (hrest c hc).2
  unfold fractionText
  split
  · next hzero =>
    have hpoint : ¬ rest.head? = some '.' := fun hc => (hrest '.' hc).1 rfl
    refine Reads.peek.bind ?_
    rw [List.nil_append, if_neg hpoint, hzero]
    exact .pure 0
  · split
    · have hlt : nanos / 1000000 < 1000 := by omega
      have hnanos : nanos / 1000000 * 1000000 = nanos := by omega
      exact reads_scanFraction_zeroPadded hlt (by decide) hnanos hdigit
    · split
      · have hlt : nanos / 1000 < 1000000 := by omega
        have hnanos : nanos / 1000 * 1000 = nanos := by omega
        exact reads_scanFraction_zeroPadded hlt (by decide) hnanos hdigit
      · exact reads_scanFraction_zeroPadded h (by decide) (Nat.mul_one nanos) hdigit

/-! ### The strict form -/

theorem reads_assemble {date : Date} {hour minute second nanos : Nat} {offset : Int}
    (h : ofCivil? date hour minute second nanos offset = some t) :
    Reads (assemble date hour minute second nanos offset) rest t rest := by
  rw [Reads, assemble, h, Option.map_some]

/-- The mark is read as an offset of zero, and does not go on with the part of a second. -/
structure IsUniversal (scan : Scan Int) (zone : List Char) : Prop where
  reads : Reads scan zone 0 []
  head : ∀ c ∈ zone.head?, c ≠ '.' ∧ isDigit c = false
  blank : ∀ c ∈ zone.head?, isBlank c = false

theorem strict?_text (hyear : 0 ≤ t.date.year ∧ t.date.year ≤ 9999) (hleap : t.LeapsAtMinuteEnd)
    (hzone : IsUniversal (scanOffset (char ':')) zone) : strict? (t.text zone) = some t := by
  have hcovered : t.IsCovered :=
    ⟨Int.le_trans (by decide) hyear.1, Int.le_trans hyear.2 (by decide)⟩
  have hreadable : t.IsReadable := ⟨hcovered, hleap⟩
  have hyearLt : t.date.year.toNat < 10000 := by omega
  obtain ⟨hhour, hminute, hsecond⟩ := t.clock_lt
  have hdate : (⟨t.date.year.toNat, t.date.month, t.date.day⟩ : Date) = t.date := by
    rw [Int.toNat_of_nonneg hyear.1]
  refine Reads.whole ?_
  rw [text_eq, yearText, if_pos hyear]
  refine (Reads.number_zeroPadded hyearLt (by decide)).bind ((Reads.char _).bind ?_)
  refine (Reads.number_zeroPadded t.month_lt (by decide)).bind ((Reads.char _).bind ?_)
  refine (Reads.number_zeroPadded t.day_lt (by decide)).bind ((Reads.charIf (by decide)).bind ?_)
  refine (Reads.number_zeroPadded hhour (by decide)).bind ((Reads.char _).bind ?_)
  refine (Reads.number_zeroPadded hminute (by decide)).bind ((Reads.char _).bind ?_)
  refine (Reads.number_zeroPadded hsecond (by decide)).bind ?_
  refine (reads_scanFraction t.fraction_lt hzone.head).bind (hzone.reads.bind ?_)
  exact t.reads_assemble (hdate ▸ t.ofCivil?_parts hreadable)

/-! ### The relaxed form -/

theorem reads_blanks {width n : Nat} :
    Reads blanks (zeroPadded width n ++ rest) () (zeroPadded width n ++ rest) :=
  Reads.skip fun _ hc => not_isBlank_of_isDigit (isDigit_of_head_zeroPadded hc)

theorem reads_no_blank {c : Char} (h : isBlank c = false) :
    Reads blanks (c :: rest) () (c :: rest) :=
  Reads.skip fun _ hc => Option.some.inj hc ▸ h

theorem reads_scanShort {n : Nat} (h : n < 100) : Reads scanShort (zeroPadded 2 n ++ rest) n rest :=
  reads_blanks.bind (Reads.number_zeroPadded h (by decide))

/-- A year after its sign is read to its last digit, one without a sign to the fourth. -/
theorem reads_scanYear (year : Int) (hrest : ∀ c ∈ rest.head?, isDigit c = false) :
    Reads scanYear (yearText year ++ rest) year rest := by
  unfold yearText
  split
  · next hyear =>
    have hlt : year.toNat < 10000 := by omega
    have hnumber : Reads (number 1 4) (zeroPadded 4 year.toNat ++ rest) year.toNat rest :=
      Reads.number_zeroPadded hlt (by decide)
    refine reads_blanks.bind (Reads.peek.bind ?_)
    split
    · next hc => exact absurd (isDigit_of_head_zeroPadded hc) (by decide)
    · next hc => exact absurd (isDigit_of_head_zeroPadded hc) (by decide)
    · refine hnumber.bind ?_
      rw [Int.toNat_of_nonneg hyear.1]
      exact .pure year
  · have hnumber : Reads longNumber (zeroPadded 4 year.natAbs ++ rest) year.natAbs rest :=
      Reads.longNumber_zeroPadded 4 year.natAbs hrest
    split
    · next hneg =>
      refine (reads_no_blank (by decide)).bind (Reads.peek.bind ((Reads.char '-').bind ?_))
      refine hnumber.bind ?_
      rw [show -(year.natAbs : Int) = year by omega]
      exact .pure year
    · next hpos =>
      refine (reads_no_blank (by decide)).bind (Reads.peek.bind ((Reads.char '+').bind ?_))
      refine hnumber.bind ?_
      rw [show (year.natAbs : Int) = year by omega]
      exact .pure year

theorem reads_scanDate {date : Date} (hmonth : date.month < 100) (hday : date.day < 100) :
    Reads (scanDate blanks) (yearText date.year ++ '-' :: (zeroPadded 2 date.month ++
      '-' :: (zeroPadded 2 date.day ++ rest))) date rest := by
  have hhyphen (s : List Char) : ∀ c ∈ ('-' :: s).head?, isDigit c = false :=
    fun _ hc => Option.some.inj hc ▸ rfl
  refine (reads_scanYear date.year (hhyphen _)).bind ((reads_no_blank (by decide)).bind ?_)
  refine (Reads.char _).bind ((reads_scanShort hmonth).bind ((reads_no_blank (by decide)).bind ?_))
  exact (Reads.char _).bind ((reads_scanShort hday).bind (.pure _))

theorem relaxed?_text (hreadable : t.IsReadable) (hzone : IsUniversal scanZone zone) :
    relaxed? (t.text zone) = some t := by
  obtain ⟨hhour, hminute, hsecond⟩ := t.clock_lt
  refine Reads.whole ?_
  rw [text_eq]
  refine (reads_scanDate t.month_lt t.day_lt).bind ((Reads.charIf (by decide)).bind ?_)
  refine (reads_scanShort hhour).bind ((reads_no_blank (by decide)).bind ((Reads.char _).bind ?_))
  refine (reads_scanShort hminute).bind ((reads_no_blank (by decide)).bind ((Reads.char _).bind ?_))
  refine (reads_scanShort hsecond).bind ((reads_scanFraction t.fraction_lt hzone.head).bind ?_)
  refine (Reads.skip hzone.blank).bind (hzone.reads.bind ((Reads.skip (by simp)).bind ?_))
  exact t.reads_assemble (t.ofCivil?_parts hreadable)

theorem isReadable_of_assemble (date : Date) (hour minute second nanos : Nat) (offset : Int) :
    Yields IsReadable (assemble date hour minute second nanos offset) := by
  intro s t rest h
  obtain ⟨t', hcivil, heq⟩ := Option.map_eq_some_iff.mp h
  cases heq
  unfold ofCivil? at hcivil
  split at hcivil
  · exact isReadable_of_of? hcivil
  · cases hcivil

theorem isReadable_of_relaxed? {t : Timestamp} {s : List Char} (h : relaxed? s = some t) :
    t.IsReadable := by
  refine Yields.whole ?_ h
  refine .bind fun date => .bind fun _ => ?_
  refine .bind fun hour => .bind fun _ => .bind fun _ => ?_
  refine .bind fun minute => .bind fun _ => .bind fun _ => ?_
  refine .bind fun second => .bind fun nanos => .bind fun _ => .bind fun offset => .bind fun _ => ?_
  exact isReadable_of_assemble date hour minute second nanos offset

/-! ### The characters of a text -/

/-- A digit, or one of the marks between the parts of an instant. -/
def IsPart (c : Char) : Prop := isDigit c = true ∨ c ∈ ['-', '+', 'T', ':', '.']

theorem isPart_of_mem_zeroPadded {width n : Nat} {c : Char} (h : c ∈ zeroPadded width n) : IsPart c :=
  .inl (isDigit_of_mem_zeroPadded h)

theorem isPart_of_mem_yearText {year : Int} {c : Char} (h : c ∈ yearText year) : IsPart c := by
  unfold yearText at h
  split at h
  · exact isPart_of_mem_zeroPadded h
  · rcases List.mem_cons.mp h with rfl | h
    · split <;> exact .inr (by decide)
    · exact isPart_of_mem_zeroPadded h

theorem isPart_of_mem_fractionText {nanos : Nat} {c : Char} (h : c ∈ fractionText nanos) : IsPart c := by
  have hpoint {width n : Nat} (h : c ∈ '.' :: zeroPadded width n) : IsPart c := by
    rcases List.mem_cons.mp h with rfl | h
    · exact .inr (by decide)
    · exact isPart_of_mem_zeroPadded h
  unfold fractionText at h
  split at h
  · exact absurd h List.not_mem_nil
  · split at h
    · exact hpoint h
    · split at h <;> exact hpoint h

theorem isPart_of_mem_text : ∀ c ∈ t.text zone, IsPart c ∨ c ∈ zone := by
  have hmark {m : Char} (h : m ∈ ['-', '+', 'T', ':', '.']) : IsPart m ∨ m ∈ zone := .inl (.inr h)
  have hnumber (n : Nat) : ∀ c ∈ zeroPadded 2 n, IsPart c ∨ c ∈ zone :=
    fun _ h => .inl (isPart_of_mem_zeroPadded h)
  simp only [text_eq, List.forall_mem_append, List.forall_mem_cons]
  refine ⟨fun _ h => .inl (isPart_of_mem_yearText h), hmark (by decide), hnumber _, hmark (by decide),
    hnumber _, hmark (by decide), hnumber _, hmark (by decide), hnumber _, hmark (by decide), hnumber _,
    fun _ h => .inl (isPart_of_mem_fractionText h), fun _ h => .inr h⟩

/-- A year starts with a digit or its sign. -/
theorem head_text {c : Char} (h : c ∈ (t.text zone).head?) : isDigit c = true ∨ c = '-' ∨ c = '+' := by
  rw [text_eq] at h
  unfold yearText at h
  split at h
  · exact .inl (isDigit_of_head_zeroPadded h)
  · obtain rfl : _ = c := Option.some.inj h
    split <;> simp

end Allowlist.Timestamp
