import Allowlist.Proofs.Binary64.ReadBack
import Allowlist.Proofs.Text.Hexadecimal
import Allowlist.Proofs.Time.Reader
import Allowlist.Proofs.Value.Uuid
import Allowlist.Value.Basic

/-! # The texts of values

Patterns are matched against texts, of which null alone has none. Integers are written in decimal. A
UUID is written as the 32 digits of its number, which are the only ones of this length that denote
it, in five groups. What a finite double or an instant is shown as is what the readers take back to
it. -/

namespace Allowlist

open Text

namespace Uuid

/-! ### Groups of digits -/

theorem exists_groups {groups : List Nat} {s : List Char}
    (h : s.length = groups.foldr (· + ·) 0) :
    ∃ parts : List (List Char), parts.map List.length = groups ∧ parts.flatten = s := by
  induction groups generalizing s with
  | nil => exact ⟨[], rfl, (List.eq_nil_of_length_eq_zero h).symm⟩
  | cons n rest ih =>
    rw [List.foldr_cons] at h
    obtain ⟨parts, hlengths, hparts⟩ := ih (s := s.drop n) (by rw [List.length_drop]; omega)
    refine ⟨s.take n :: parts, ?_, ?_⟩
    · rw [List.map_cons, hlengths, List.length_take, Nat.min_eq_left (by omega)]
    · rw [List.flatten_cons, hparts, List.take_append_drop]

theorem hyphenate_flatten (parts : List (List Char)) :
    hyphenate (parts.map List.length) parts.flatten = ['-'].intercalate parts := by
  induction parts with
  | nil => rfl
  | cons part parts ih =>
    cases parts with
    | nil => simp [hyphenate]
    | cons next parts =>
      rw [List.map_cons, List.map_cons, hyphenate_cons_cons, ← List.map_cons, List.flatten_cons,
        List.take_left, List.drop_left, ih, List.intercalate_cons_cons]
      simp

/-- The digits of the number, in lower case and with hyphens between their five groups. -/
def IsText (u : Uuid) (text : List Char) : Prop :=
  ∃ parts : List (List Char), parts.map List.length = [8, 4, 4, 4, 12] ∧
    (∀ c ∈ parts.flatten, IsLowerHex c) ∧
    ofDigits 16 (parts.flatten.filterMap hexDigit?) = u.value.toNat ∧
    text = ['-'].intercalate parts

theorem isText_iff {u : Uuid} {text : List Char} : u.IsText text ↔ text = u.text := by
  constructor
  · rintro ⟨parts, hlengths, hdigits, hvalue, rfl⟩
    have hlength : parts.flatten.length = 32 := by rw [List.length_flatten, hlengths]; rfl
    rw [Uuid.text, ← hvalue, ← hlength, fixedWidth_ofDigits hdigits, ← hyphenate_flatten, hlengths]
    rfl
  · intro h
    obtain ⟨parts, hlengths, hparts⟩ := exists_groups u.length_digits
    refine ⟨parts, hlengths, ?_, ?_, ?_⟩
    · rw [hparts]
      exact fun c => isLowerHex_of_mem_fixedWidth
    · rw [hparts, ofDigits_fixedWidth u.value_lt]
    · rw [h, Uuid.text, ← hyphenate_flatten, hparts, hlengths]

end Uuid

namespace FieldValue

/-- How a value is shown, by its kind. Finite doubles and timestamps stand as they are printed;
`read?_float`, `strict?_dateTime` and `relaxed?_dateTime` below say what such a text is read as. -/
inductive Shows : FieldValue → String → Prop
  | string (s : String) : Shows (.string s) s
  | yes : Shows (.boolean true) "true"
  | no : Shows (.boolean false) "false"
  | integer (i : Int64) : Shows (.integer i) (toString i.toInt)
  | notANumber {x : Binary64} (h : x.isNaN = true) : Shows (.float x) "NaN"
  | infinite {x : Binary64} (hnumber : x.isNaN = false) (h : x.isFinite = false) :
    Shows (.float x) (if x.isNegative then "-inf" else "inf")
  | float {x : Binary64} (h : x.isFinite = true) :
    Shows (.float x) (String.ofList (x.text floatLayout))
  | uuid {u : Uuid} {text : List Char} (h : u.IsText text) : Shows (.uuid u) (String.ofList text)
  | dateTime (t : Timestamp) : Shows (.dateTime t) (String.ofList (t.text zone))

theorem shows_float (x : Binary64) :
    (FieldValue.float x).Shows (String.ofList (x.text floatLayout)) := by
  by_cases hfinite : x.isFinite = true
  · exact .float hfinite
  · rw [Bool.not_eq_true] at hfinite
    by_cases hnumber : x.isNaN = true
    · rw [Binary64.text, if_pos hnumber]
      exact .notANumber hnumber
    · rw [Bool.not_eq_true] at hnumber
      have hshows := Shows.infinite hnumber hfinite
      have htext : x.text floatLayout = floatLayout.infinite x.isNegative := by
        simp [Binary64.text, hnumber, hfinite]
      rw [htext, floatLayout]
      cases hsign : x.isNegative <;> simpa [hsign] using hshows

theorem text?_eq_some_iff {v : FieldValue} {s : String} : v.text? = some s ↔ v.Shows s := by
  constructor
  · cases v with
    | null => exact nofun
    | boolean b => cases b <;> rintro ⟨⟩ <;> constructor
    | integer i =>
      rw [text?, ofList_signedDecimal, Option.some_inj]
      exact fun h => h ▸ .integer i
    | float x => exact fun h => Option.some.inj h ▸ shows_float x
    | uuid u => exact fun h => Option.some.inj h ▸ .uuid (Uuid.isText_iff.mpr rfl)
    | dateTime t => exact fun h => Option.some.inj h ▸ .dateTime t
    | string s => exact fun h => Option.some.inj h ▸ .string s
  · intro h
    cases h with
    | integer i => rw [text?, ofList_signedDecimal]
    | uuid h => rw [text?, Uuid.isText_iff.mp h]
    | notANumber h => simp [text?, Binary64.text, h, floatLayout]
    | @infinite x hnumber h =>
      cases hsign : x.isNegative <;> simp [text?, Binary64.text, hnumber, h, floatLayout, hsign]
    | string | yes | no | float | dateTime => rfl

/-! ### Doubles and instants are read back -/

theorem endsInZeros_floatLayout : floatLayout.EndsInZeros := ⟨0, rfl⟩

theorem isUniversal_zone : Timestamp.IsUniversal (Timestamp.scanOffset (Scan.char ':')) zone where
  reads := rfl
  head _ hc := Option.some.inj hc ▸ ⟨by decide, rfl⟩
  blank _ hc := Option.some.inj hc ▸ rfl

theorem isUniversal_scanZone : Timestamp.IsUniversal Timestamp.scanZone zone where
  reads := rfl
  head := isUniversal_zone.head
  blank := isUniversal_zone.blank

namespace Shows
variable {x : Binary64} {t : Timestamp} {s : String}

theorem eq_floatText (h : (FieldValue.float x).Shows s) : s = String.ofList (x.text floatLayout) :=
  (Option.some.inj (text?_eq_some_iff.mpr h)).symm

theorem read?_float (h : (FieldValue.float x).Shows s) (hfinite : x.isFinite = true) :
    Binary64.read? s.toList = some x := by
  rw [h.eq_floatText, String.toList_ofList, Binary64.read?_text endsInZeros_floatLayout hfinite]

/-- The text of an instant in a year of four digits is its text in RFC 3339. -/
theorem strict?_dateTime (h : (FieldValue.dateTime t).Shows s)
    (hyear : 0 ≤ t.date.year ∧ t.date.year ≤ 9999) (hleap : t.LeapsAtMinuteEnd) :
    Timestamp.strict? s.toList = some t := by
  cases h
  rw [String.toList_ofList, t.strict?_text hyear hleap isUniversal_zone]

theorem relaxed?_dateTime (h : (FieldValue.dateTime t).Shows s) (hreadable : t.IsReadable) :
    Timestamp.relaxed? s.toList = some t := by
  cases h
  rw [String.toList_ofList, t.relaxed?_text hreadable isUniversal_scanZone]

end Shows

end FieldValue

end Allowlist
