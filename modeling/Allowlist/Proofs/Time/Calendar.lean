import Allowlist.Time.Calendar

/-! # The day of a date

A year has the days between its first day and that of the next year, 366 of them if it is a leap
year and 365 if not. The mean length of a year puts a day at most one year off, so the year that is
found holds the day, and the months of that year share out its days. So the date of a day is one of
the calendar, and its day is the one that it was made from. -/

namespace Allowlist.Date

/-! ### Years -/

theorem daysBeforeYear_succ (year : Int) :
    daysBeforeYear (year + 1) = daysBeforeYear year + (if isLeap year then 366 else 365) := by
  simp only [daysBeforeYear, isLeap, Bool.and_eq_true, Bool.or_eq_true, decide_eq_true_eq]
  split <;> omega

theorem daysBeforeYear_mono {year year' : Int} (h : year ≤ year') :
    daysBeforeYear year ≤ daysBeforeYear year' := by
  simp only [daysBeforeYear]
  omega

theorem daysBeforeYear_yearOfDays (days : Int) :
    daysBeforeYear (yearOfDays days) ≤ days ∧ days < daysBeforeYear (yearOfDays days + 1) := by
  -- the estimate is at most one year late and at most one year early
  have hlate : daysBeforeYear (400 * days / 146097 + 1 - 1) ≤ days := by
    simp only [daysBeforeYear]; omega
  have hearly : days < daysBeforeYear (400 * days / 146097 + 1 + 1 + 1) := by
    simp only [daysBeforeYear]; omega
  simp only [yearOfDays]
  generalize 400 * days / 146097 + 1 = year at *
  split
  · next hlt => exact ⟨hlate, by rwa [Int.sub_add_cancel]⟩
  · split
    · next hle => exact ⟨hle, hearly⟩
    · next hge hlt => exact ⟨Int.not_lt.mp hge, Int.not_le.mp hlt⟩

theorem yearOfDays_bounds {days low high : Int} (hlow : daysBeforeYear low ≤ days)
    (hhigh : days < daysBeforeYear (high + 1)) : low ≤ yearOfDays days ∧ yearOfDays days ≤ high := by
  obtain ⟨hle, hlt⟩ := daysBeforeYear_yearOfDays days
  refine ⟨Int.not_lt.mp fun h => ?_, Int.not_lt.mp fun h => ?_⟩
  · have hmono := daysBeforeYear_mono (show yearOfDays days + 1 ≤ low by omega)
    omega
  · have hmono := daysBeforeYear_mono (show high + 1 ≤ yearOfDays days by omega)
    omega

/-! ### Months -/

theorem total_cons (length : Nat) (lengths : List Nat) :
    (length :: lengths).foldl Nat.add 0 = length + lengths.foldl Nat.add 0 := by
  have hstart (n : Nat) : lengths.foldl Nat.add n = n + lengths.foldl Nat.add 0 := by
    induction lengths generalizing n with
    | nil => rfl
    | cons next rest ih =>
      rw [List.foldl_cons, List.foldl_cons, ih, ih (Nat.add 0 next)]
      simp only [Nat.add_eq]
      omega
  rw [List.foldl_cons, hstart]
  simp

/-- A day of the year is in the first month that it does not lie behind. -/
theorem exists_monthDay {lengths : List Nat} {n : Nat} (h : n < lengths.foldl Nat.add 0) (month : Nat) :
    ∃ before length after k, lengths = before ++ length :: after ∧ k < length ∧
      n = before.foldl Nat.add 0 + k ∧ monthDay month lengths n = (month + before.length, k + 1) := by
  induction lengths generalizing n month with
  | nil => exact absurd h (Nat.not_lt_zero n)
  | cons length rest ih =>
    by_cases hn : n < length
    · exact ⟨[], length, rest, n, rfl, hn, (Nat.zero_add n).symm, by simp [monthDay, hn]⟩
    · rw [total_cons] at h
      obtain ⟨before, next, after, k, rfl, hk, heq, hmonth⟩ := ih (n := n - length) (by omega) (month + 1)
      refine ⟨length :: before, next, after, k, rfl, hk, ?_, ?_⟩
      · rw [total_cons]
        omega
      · rw [monthDay, if_neg hn, hmonth, List.length_cons]
        congr 1
        omega

theorem total_monthLengths (leap : Bool) :
    (monthLengths leap).foldl Nat.add 0 = if leap then 366 else 365 := by
  cases leap <;> rfl

/-- The date of a day: the months in front of it have passed, and `k` days of its own. -/
theorem exists_ofDays (days : Int) : ∃ before length after k,
    monthLengths (isLeap (yearOfDays days)) = before ++ length :: after ∧ k < length ∧
      days = daysBeforeYear (yearOfDays days) + (before.foldl Nat.add 0 + k : Nat) ∧
      ofDays days = ⟨yearOfDays days, before.length + 1, k + 1⟩ := by
  obtain ⟨hle, hlt⟩ := daysBeforeYear_yearOfDays days
  rw [daysBeforeYear_succ] at hlt
  have hyear : (days - daysBeforeYear (yearOfDays days)).toNat <
      (monthLengths (isLeap (yearOfDays days))).foldl Nat.add 0 := by
    rw [total_monthLengths]
    split at hlt <;> simp [*] <;> omega
  obtain ⟨before, length, after, k, hlengths, hk, hdays, hmonth⟩ := exists_monthDay hyear 1
  refine ⟨before, length, after, k, hlengths, hk, by omega, ?_⟩
  simp only [ofDays, hmonth, Nat.add_comm 1]

variable (days : Int)

theorem year_ofDays : (ofDays days).year = yearOfDays days := rfl

theorem toDays_ofDays : (ofDays days).toDays = days := by
  obtain ⟨before, length, after, k, hlengths, -, hdays, hdate⟩ := exists_ofDays days
  have htake : (monthLengths (isLeap (yearOfDays days))).take before.length = before := by
    rw [hlengths, List.take_left]
  simp only [hdate, toDays, Nat.add_sub_cancel, htake]
  omega

theorem month_ofDays : 1 ≤ (ofDays days).month ∧ (ofDays days).month ≤ 12 := by
  obtain ⟨before, length, after, k, hlengths, -, -, hdate⟩ := exists_ofDays days
  have hcount : (monthLengths (isLeap (yearOfDays days))).length = 12 := rfl
  rw [hlengths, List.length_append, List.length_cons] at hcount
  rw [hdate]
  constructor <;> simp only <;> omega

theorem day_ofDays : 1 ≤ (ofDays days).day ∧
    (ofDays days).day ≤ (monthLengths (isLeap (yearOfDays days))).getD ((ofDays days).month - 1) 0 := by
  obtain ⟨before, length, after, k, hlengths, hk, -, hdate⟩ := exists_ofDays days
  have hlength : (monthLengths (isLeap (yearOfDays days))).getD before.length 0 = length := by
    rw [hlengths]
    simp
  rw [hdate]
  simp only [Nat.add_sub_cancel, hlength]
  omega

theorem day_ofDays_le : (ofDays days).day ≤ 31 := by
  obtain ⟨before, length, after, k, hlengths, hk, -, hdate⟩ := exists_ofDays days
  have hall : ∀ leap, ∀ length ∈ monthLengths leap, length ≤ 31 := by decide
  have hlength := hall (isLeap (yearOfDays days)) length (by rw [hlengths]; simp)
  rw [hdate]
  simp only
  omega

theorem isValid_ofDays {days : Int} (hmin : minYear ≤ yearOfDays days)
    (hmax : yearOfDays days ≤ maxYear) : (ofDays days).isValid = true := by
  obtain ⟨hmonth, hmonth'⟩ := month_ofDays days
  obtain ⟨hday, hday'⟩ := day_ofDays days
  rw [← year_ofDays] at hmin hmax hday'
  simp only [isValid, Bool.and_eq_true]
  exact ⟨⟨⟨⟨⟨decide_eq_true hmin, decide_eq_true hmax⟩, decide_eq_true hmonth⟩,
    decide_eq_true hmonth'⟩, decide_eq_true hday⟩, decide_eq_true hday'⟩

end Allowlist.Date
