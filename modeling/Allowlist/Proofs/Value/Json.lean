import Allowlist.Proofs.Json.Text
import Allowlist.Proofs.Value.Coercion
import Allowlist.Value.Json

/-! # Values survive JSON

A value that was read from JSON is written so that the reader finds it again, doubles aside. The
kinds keep apart: an integer of 64 bits is never read as a double, the hyphenated form of a UUID is
one of the forms that are tried first, and the text of a timestamp is no UUID, because of the letter
between date and time. A string that is read as text was neither, and is written as it is. -/

namespace Allowlist

open Text

theorem Timestamp.parse?_text_eq_none (t : Timestamp) (zone : List Char) :
    Uuid.parse? (t.text zone) = none := by
  have hletter : 'T' ∈ t.text zone := by simp [Timestamp.text]
  refine Uuid.parse?_eq_none hletter (by decide) (by decide) fun c hc => ?_
  rcases t.head_text hc with hdigit | rfl | rfl
  · obtain ⟨d, hd, rfl⟩ := exists_digitChar (.inl (isDigit_iff.mp hdigit))
    have hall : ∀ d < 16, digitChar d ≠ '\x7b' ∧ (digitChar d).toLower ≠ 'u' := by decide
    exact hall d hd
  · decide
  · decide

namespace FieldValue

/-- The values other than doubles that JSON is read as. -/
inductive FromJson : FieldValue → Prop
  | null : FromJson .null
  | boolean (b : Bool) : FromJson (.boolean b)
  | integer (i : Int64) : FromJson (.integer i)
  | uuid (u : Uuid) : FromJson (.uuid u)
  | dateTime {t : Timestamp} (h : t.IsReadable) : FromJson (.dateTime t)
  | string {s : String} (huuid : Uuid.parse? s.toList = none)
    (htime : Timestamp.relaxed? s.toList = none) : FromJson (.string s)

theorem fromJson_ofString (s : String) : (ofString s).FromJson := by
  unfold ofString
  split
  · next u _ => exact .uuid u
  · next huuid =>
    split
    · next t htime => exact .dateTime (Timestamp.isReadable_of_relaxed? htime)
    · next htime => exact .string huuid htime

theorem fromJson_of_ofJson? {j : Json} {v : FieldValue} (h : ofJson? j = some v)
    (hfloat : ∀ x, v ≠ .float x) : v.FromJson := by
  cases j with
  | null => exact Option.some.inj h ▸ .null
  | bool b => exact Option.some.inj h ▸ .boolean b
  | number n =>
    obtain rfl : ofNumber n = v := Option.some.inj h
    cases n with
    | integer i =>
      by_cases hint64 : isInt64 i = true
      · rw [ofNumber, if_pos hint64]
        exact .integer _
      · exact absurd (if_neg hint64) (hfloat (Binary64.ofInt i))
    | float x => exact absurd rfl (hfloat x)
  | string s => exact Option.some.inj h ▸ fromJson_ofString s
  | array items => cases h
  | object fields => cases h

theorem exists_of_parseJson? {s : String} {v : FieldValue} (h : parseJson? s = some v) :
    ∃ j, ofJson? j = some v := by
  obtain ⟨raw, -, hraw⟩ := Option.bind_eq_some_iff.mp h
  unfold ofRaw? at hraw
  split at hraw
  · cases hraw
  · cases hraw
  · obtain ⟨j, -, hj⟩ := Option.bind_eq_some_iff.mp hraw
    exact ⟨j, hj⟩

theorem isUniversal_jsonZone : Timestamp.IsUniversal Timestamp.scanZone jsonZone where
  reads := rfl
  head _ hc := Option.some.inj hc ▸ ⟨by decide, rfl⟩
  blank _ hc := Option.some.inj hc ▸ rfl

theorem parseJson?_string (s : String) : parseJson? (Json.text (.string s)) = some (ofString s) := by
  rw [parseJson?, Json.text, String.toList_ofList, Json.render, Json.Raw.parse?_renderString]; rfl

namespace FromJson
variable {v : FieldValue}

theorem not_float (h : v.FromJson) (x : Binary64) : v ≠ .float x := by
  cases h <;> exact nofun

/-- The tree of the value is read as the value. -/
theorem ofJson?_toJson (h : v.FromJson) : ofJson? v.toJson = some v := by
  cases h with
  | null | boolean => rfl
  | integer i => simp [toJson, ofJson?, ofNumber, isInt64_toInt]
  | uuid u => simp [toJson, ofJson?, ofString, u.parse?_text]
  | @dateTime t hreadable =>
    simp [toJson, ofJson?, ofString, t.parse?_text_eq_none, t.relaxed?_text hreadable isUniversal_jsonZone]
  | string huuid htime => simp [toJson, ofJson?, ofString, huuid, htime]

/-- The text of the value is read as its tree. -/
theorem parseJson?_text (h : v.FromJson) : parseJson? v.toJson.text = ofJson? v.toJson := by
  cases h with
  | null => rfl
  | boolean b => cases b <;> rfl
  | integer i =>
    have hnumber := Json.Numeral.toNumber?_ofInt i.le_toInt (Int.lt_trans i.toInt_lt (by decide))
    rw [parseJson?, toJson, Json.text, String.toList_ofList, Json.render, Json.renderNumber,
      Json.Raw.parse?_signedDecimal, Option.bind_some, ofRaw?, Json.Raw.toJson?, hnumber]
    · rfl
    · exact nofun
    · exact nofun
  | uuid u => exact parseJson?_string _
  | dateTime => exact parseJson?_string _
  | string => exact parseJson?_string _

theorem parseJson?_self (h : v.FromJson) : parseJson? v.toJson.text = some v :=
  h.parseJson?_text.trans h.ofJson?_toJson

end FromJson

/-- A value that was read from JSON and is no double is read again from its own JSON, as a text and
as a tree, so writing and reading it once more changes neither the value nor the text. Null, truth
values, integers of 64 bits and all strings are read as such values. -/
theorem json_reencoding_is_stable :
    (∀ (s : String) (v : FieldValue), parseJson? s = some v → (∀ x, v ≠ .float x) →
      parseJson? v.toJson.text = some v ∧ ofJson? v.toJson = some v ∧
        ∀ w, parseJson? v.toJson.text = some w → w = v ∧ w.toJson.text = v.toJson.text) ∧
    parseJson? (Json.text .null) = some .null ∧
    (∀ b : Bool, parseJson? (Json.text (.bool b)) = some (.boolean b)) ∧
    (∀ i : Int64, parseJson? (Json.text (.number (.integer i.toInt))) = some (.integer i)) ∧
    ∀ s : String, ∃ v, parseJson? (Json.text (.string s)) = some v ∧ ∀ x, v ≠ .float x := by
  refine ⟨fun s v h hfloat => ?_, FromJson.null.parseJson?_self, fun b => ?_, fun i => ?_, fun s => ?_⟩
  · obtain ⟨j, hj⟩ := exists_of_parseJson? h
    have hjson := fromJson_of_ofJson? hj hfloat
    refine ⟨hjson.parseJson?_self, hjson.ofJson?_toJson, fun w hw => ?_⟩
    obtain rfl : v = w := Option.some.inj (hjson.parseJson?_self.symm.trans hw)
    exact ⟨rfl, rfl⟩
  · exact (FromJson.boolean b).parseJson?_self
  · exact (FromJson.integer i).parseJson?_self
  · exact ⟨ofString s, parseJson?_string s, (fromJson_ofString s).not_float⟩

/-- A leap second half an hour east of Greenwich, its first colon escaped, is written in universal
time and keeps its kind. -/
theorem leap_second_is_stable :
    let s := "\"2017-01-01 00:29\\u003a60.25 +00:30\""
    let v : FieldValue := .dateTime ⟨1483228799, 1250000000, by decide⟩
    parseJson? s = some v ∧ (∀ x, v ≠ .float x) ∧
      v.toJson.text = "\"2016-12-31T23:59:60.250Z\"" ∧ parseJson? v.toJson.text = some v := by
  intro s v
  have hread : parseJson? s = some v := by decide +kernel
  have hfloat : ∀ x, v ≠ .float x := nofun
  exact ⟨hread, hfloat, by decide +kernel, (json_reencoding_is_stable.1 s v hread hfloat).1⟩

end FieldValue

end Allowlist
