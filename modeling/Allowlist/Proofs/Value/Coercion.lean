import Allowlist.Proofs.Text.Blank
import Allowlist.Proofs.Value.Text
import Allowlist.Proofs.Value.UuidForms
import Allowlist.Value.Coercion

/-! # Values are read back from their texts

Truth values, integers, finite doubles, UUIDs and timestamps of years with four digits are written
in a form that the coercion of their kind reads, and it finds the same value, unless the timestamp
has a leap second within a minute. Their texts have neither blanks nor commas, so neither trimming nor
splitting at commas changes them. -/

namespace Allowlist

open Text

/-- A visible character of ASCII that does not part the values of a list. -/
def IsPlain (c : Char) : Prop := ('!' ≤ c ∧ c ≤ '~') ∧ c ≠ ','

instance (c : Char) : Decidable (IsPlain c) := inferInstanceAs (Decidable (_ ∧ _))

theorem isPlain_of_mem {s : List Char} (h : s.all (fun c => decide (IsPlain c)) = true) :
    ∀ c ∈ s, IsPlain c := fun c hc => of_decide_eq_true (List.all_eq_true.mp h c hc)

theorem isPlain_of_isDigit {c : Char} (h : isDigit c = true) : IsPlain c := by
  obtain ⟨hlo, hhi⟩ := isDigit_iff.mp h
  refine ⟨⟨Char.le_trans (by decide) hlo, Char.le_trans hhi (by decide)⟩, ?_⟩
  rintro rfl
  exact absurd h (by decide)

theorem trim_of_plain {s : List Char} (h : ∀ c ∈ s, IsPlain c) : trim s = s :=
  trim_of_no_blank fun c hc => not_isBlank_of_visible (h c hc).1

/-! ### Integers -/

theorem takeSign_decimal (n : Nat) : Binary64.takeSign (decimal n) = (false, decimal n) := by
  obtain ⟨c, digits, hdigits, hc⟩ := exists_decimal n
  rw [hdigits, Binary64.takeSign_of_isDigit hc]

theorem isInt64_toInt (i : Int64) : isInt64 i.toInt = true := by
  have hge : minInt64 ≤ i.toInt := i.le_toInt
  have hle : i.toInt ≤ maxInt64 := Int.lt_add_one_iff.mp i.toInt_lt
  rw [isInt64, decide_eq_true hge, decide_eq_true hle]; rfl

theorem readInteger?_signedDecimal (i : Int64) :
    Coercion.readInteger? (signedDecimal i.toInt) = some i := by
  have hint64 := isInt64_toInt i
  unfold signedDecimal
  split
  · next hneg =>
    have habs : -(i.toInt.natAbs : Int) = i.toInt := by omega
    simp only [Coercion.readInteger?, Binary64.takeSign, natural?_decimal, habs, hint64,
      Option.bind_eq_bind, Option.bind_some, if_true, Int64.ofInt_toInt]
  · next hpos =>
    have habs : (i.toInt.natAbs : Int) = i.toInt := by omega
    simp only [Coercion.readInteger?, takeSign_decimal, natural?_decimal, habs, hint64,
      Option.bind_eq_bind, Option.bind_some, Bool.false_eq_true, if_true, if_false, Int64.ofInt_toInt]

theorem isPlain_of_mem_signedDecimal {i : Int} {c : Char} (h : c ∈ signedDecimal i) : IsPlain c := by
  unfold signedDecimal at h
  split at h
  · rcases List.mem_cons.mp h with rfl | h
    · decide
    · exact isPlain_of_isDigit (isDigit_of_mem_decimal h)
  · exact isPlain_of_isDigit (isDigit_of_mem_decimal h)

/-! ### Doubles -/

theorem isPlain_of_mem_floatText {x : Binary64} (h : x.isFinite = true) :
    ∀ c ∈ x.text FieldValue.floatLayout, IsPlain c := by
  intro c hc
  have hpositional : ∀ leading, FieldValue.floatLayout.positional leading = true := fun _ => rfl
  rcases Binary64.mem_text hpositional h hc with hdigit | rfl | rfl | hend
  · exact isPlain_of_isDigit hdigit
  · decide
  · decide
  · exact absurd hend List.not_mem_nil

/-- The text of a finite double is coerced to it. -/
theorem FieldValue.Shows.float_eq {x : Binary64} {s : String} (h : (FieldValue.float x).Shows s)
    (hfinite : x.isFinite = true) : Coercion.float s = .float x := by
  have hplain : ∀ c ∈ s.toList, IsPlain c := by
    rw [h.eq_floatText, String.toList_ofList]
    exact isPlain_of_mem_floatText hfinite
  simp only [Coercion.float, trim_of_plain hplain, h.read?_float hfinite, hfinite, if_true]

/-! ### UUIDs -/

theorem isPlain_of_isLowerHex {c : Char} (h : IsLowerHex c) : IsPlain c := by
  rcases h with h | ⟨hlo, hhi⟩
  · exact isPlain_of_isDigit (isDigit_iff.mpr h)
  · refine ⟨⟨Char.le_trans (by decide) hlo, Char.le_trans hhi (by decide)⟩, ?_⟩
    rintro rfl
    exact absurd hlo (by decide)

theorem Uuid.isPlain_of_mem_text (u : Uuid) : ∀ c ∈ u.text, IsPlain c := by
  intro c hc
  rcases mem_hyphenate hc with rfl | hdigit
  · decide
  · exact isPlain_of_isLowerHex (isLowerHex_of_mem_fixedWidth hdigit)

/-! ### Timestamps -/

theorem Timestamp.isPlain_of_mem_text (t : Timestamp) : ∀ c ∈ t.text FieldValue.zone, IsPlain c := by
  intro c hc
  rcases t.isPart_of_mem_text c hc with (hdigit | hmark) | hzone
  · exact isPlain_of_isDigit hdigit
  · exact isPlain_of_mem (by decide) c hmark
  · exact isPlain_of_mem (by decide) c hzone

namespace FieldValue

/-- The value is of the kind that the coercion makes, and an instant is in a year of four digits. -/
inductive IsOfKind : FieldValue → CoercionKind → Prop
  | boolean (b : Bool) : IsOfKind (.boolean b) .boolean
  | integer (i : Int64) : IsOfKind (.integer i) .integer
  | uuid (u : Uuid) : IsOfKind (.uuid u) .uuid
  | dateTime {t : Timestamp} (h : 0 ≤ t.date.year ∧ t.date.year ≤ 9999) :
    IsOfKind (.dateTime t) .dateTime

/-- An instant has no leap second within a minute. -/
def LeapsAtMinuteEnd (v : FieldValue) : Prop := ∀ t, v = .dateTime t → t.LeapsAtMinuteEnd

/-- The text has nothing to trim or to split. -/
theorem IsOfKind.exists_text {v : FieldValue} {kind : CoercionKind} (h : v.IsOfKind kind)
    (hleap : v.LeapsAtMinuteEnd) :
    ∃ s : List Char, v.text? = some (String.ofList s) ∧ s ≠ [] ∧ (∀ c ∈ s, IsPlain c) ∧
      kind.coercion (String.ofList s) = v := by
  cases h with
  | boolean b =>
    cases b
    · exact ⟨"false".toList, rfl, by decide, isPlain_of_mem (by decide), by decide⟩
    · exact ⟨"true".toList, rfl, by decide, isPlain_of_mem (by decide), by decide⟩
  | integer i =>
    have hplain : ∀ c ∈ signedDecimal i.toInt, IsPlain c := fun _ => isPlain_of_mem_signedDecimal
    have hne : signedDecimal i.toInt ≠ [] := by
      obtain ⟨c, digits, hdigits, -⟩ := exists_signedDecimal i.toInt
      simp [hdigits]
    refine ⟨signedDecimal i.toInt, rfl, hne, hplain, ?_⟩
    simp only [CoercionKind.coercion, Coercion.integer, String.toList_ofList, trim_of_plain hplain,
      readInteger?_signedDecimal, Option.map_some, Option.getD_some]
  | uuid u =>
    have hne : u.text ≠ [] := List.ne_nil_of_length_pos (by rw [u.length_text]; decide)
    refine ⟨u.text, rfl, hne, u.isPlain_of_mem_text, ?_⟩
    simp only [CoercionKind.coercion, Coercion.uuid, String.toList_ofList,
      trim_of_plain u.isPlain_of_mem_text, u.parse?_text, Option.map_some, Option.getD_some]
  | @dateTime t hyear =>
    have hread := t.strict?_text hyear (hleap t rfl) isUniversal_zone
    have hne : t.text zone ≠ [] := by simp [Timestamp.text, zone]
    refine ⟨t.text zone, rfl, hne, t.isPlain_of_mem_text, ?_⟩
    simp only [CoercionKind.coercion, Coercion.dateTime, String.toList_ofList,
      trim_of_plain t.isPlain_of_mem_text, hread, Option.some_or, Option.map_some, Option.getD_some]

end FieldValue

end Allowlist
