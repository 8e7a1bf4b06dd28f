import Allowlist.Proofs.Listing.Membership
import Allowlist.Proofs.Value.Coercion

/-! # Stored values as filters

The text of a stored value, sent back as the parameter of a filter, is coerced to the value itself,
also as the only segment of a list. So the filter lets through the rows whose column compares as
equal to the value, and no others. Only a timestamp with a leap second within a minute is lost: it
is written as the second after, and read as that. -/

namespace Allowlist

open Predicate

theorem segments_of_plain {s : List Char} (h : ∀ c ∈ s, IsPlain c) :
    segments (String.ofList s) = [String.ofList s] := by
  have hcomma : ',' ∉ s := fun hc => (h ',' hc).2 rfl
  rw [segments, String.toList_ofList, Text.splitAt_of_not_mem hcomma]; rfl

namespace Predicate
variable {record : Record} {column : Column} {v : FieldValue}

theorem holds_compare_eq_iff : holds record (.compare .eq column v) = true ↔
    ∃ stored, record.get? column = some stored ∧ stored.compare? v = some .eq := by
  simp only [holds, compareColumn?]
  cases record.get? column with
  | none => simp
  | some stored => cases h : stored.compare? v <;> simp [Comparison.accepts, h]

theorem holds_isIn_singleton_iff : holds record (.isIn column [v]) = true ↔
    ∃ stored, record.get? column = some stored ∧ stored.compare? v = some .eq := by
  simp only [holds, inColumn]
  cases record.get? column with
  | none => simp
  | some stored => simp [FieldValue.sqlEq]

end Predicate

namespace ListConfig
variable {c : ListConfig} {name : String} {f : ColumnFilter} {v : FieldValue} {kind : CoercionKind}

/-- A value is read back from its text, unless it is a timestamp with a leap second within a minute,
and a filter for equality or membership that is given this text finds exactly the rows in which the
column compares as equal to the value. -/
theorem echoed_value_finds_its_rows (hv : v.IsOfKind kind) (hleap : v.LeapsAtMinuteEnd)
    (hname : isReserved name = false) (hf : c.filters.get? name = some f)
    (hcoercion : f.coercion = kind.coercion) (hop : f.op = .eq ∨ f.op = .isIn) :
    ∃ s, v.text? = some s ∧ kind.coercion s = v ∧
      ∀ record : Record, holds? (c.query (.ofList [(name, s)])).filter record = true ↔
        ∃ stored, record.get? f.column = some stored ∧ stored.compare? v = some .eq := by
  obtain ⟨s, htext, hne, hplain, hread⟩ := hv.exists_text hleap
  refine ⟨String.ofList s, htext, hread, fun record => ?_⟩
  have hraw : String.ofList s ≠ "" := by simpa using hne
  rw [filter_query_of_filter hname hraw hf, holds?, Option.all_some]
  rcases hop with hop | hop
  · have hcondition : f.condition (String.ofList s) = .compare .eq f.column v := by
      rw [ColumnFilter.condition, ColumnFilter.operand, hop, hcoercion]
      exact congrArg (Predicate.compare .eq f.column) hread
    rw [hcondition, holds_compare_eq_iff]
  · rw [f.condition_of_isIn hop, segments_of_plain hplain, List.map_singleton, hcoercion, hread,
      holds_isIn_singleton_iff]

/-- The last nanosecond of the leap second that ended the year 2016. -/
def leapEnd : Timestamp := ⟨1483228799, 1999999999, by decide⟩

def closedFilter : ColumnFilter where
  column := "closed_at"
  op := .isIn
  coercion := CoercionKind.dateTime.coercion

/-- Tickets by the instants at which they were closed. -/
def closedConfig : ListConfig :=
  { ticketConfig with filters := .ofList [("closed", closedFilter)] }

/-- The ticket of the instant itself is found, that of a nanosecond before is not. -/
theorem leap_second_finds_its_row :
    let ticket (t : Timestamp) : Record := .ofList [("id", .integer 9), ("closed_at", .dateTime t)]
    let before : Timestamp := ⟨1483228799, 1999999998, by decide⟩
    (FieldValue.dateTime leapEnd).IsOfKind .dateTime ∧
      (FieldValue.dateTime leapEnd).LeapsAtMinuteEnd ∧ isReserved "closed" = false ∧
      closedConfig.filters.get? "closed" = some closedFilter ∧
      closedFilter.coercion = CoercionKind.dateTime.coercion ∧
      (closedFilter.op = .eq ∨ closedFilter.op = .isIn) ∧
      ∃ s, s = "2016-12-31T23:59:60.999999999+00:00" ∧
        CoercionKind.dateTime.coercion s = .dateTime leapEnd ∧
        holds? (closedConfig.query (.ofList [("closed", s)])).filter (ticket leapEnd) = true ∧
        ¬ holds? (closedConfig.query (.ofList [("closed", s)])).filter (ticket before) = true := by
  intro ticket before
  have hkind : (FieldValue.dateTime leapEnd).IsOfKind .dateTime := .dateTime (by decide)
  have hleap : (FieldValue.dateTime leapEnd).LeapsAtMinuteEnd := by
    rintro t ⟨⟩
    exact fun _ => rfl
  have htext : (FieldValue.dateTime leapEnd).text? = some "2016-12-31T23:59:60.999999999+00:00" := by
    decide +kernel
  have hname : isReserved "closed" = false := by decide
  have hf : closedConfig.filters.get? "closed" = some closedFilter := rfl
  have hcoercion : closedFilter.coercion = CoercionKind.dateTime.coercion := by
    simp only [closedFilter]
  have hop : closedFilter.op = .eq ∨ closedFilter.op = .isIn := .inr rfl
  obtain ⟨s, hs, hread, hrows⟩ := echoed_value_finds_its_rows hkind hleap hname hf hcoercion hop
  have hsame := Option.some.inj (hs.symm.trans htext)
  refine ⟨hkind, hleap, hname, hf, hcoercion, hop, s, hsame, hread, ?_, ?_⟩
  · exact (hrows (ticket leapEnd)).mpr ⟨.dateTime leapEnd, by decide, by decide⟩
  · intro hholds
    obtain ⟨stored, hstored, hequal⟩ := (hrows (ticket before)).mp hholds
    have hbefore : (ticket before).get? "closed_at" = some (.dateTime before) := by decide
    rw [← Option.some.inj (hbefore.symm.trans hstored)] at hequal
    exact absurd hequal (by decide)

/-- A third of a second after a leap second that follows the fourth second of 1970. -/
def leapWithin : Timestamp := ⟨4, 1333333333, by decide⟩

/-- A leap second within a minute is read as the second after it, so its rows are not found. -/
theorem not_forall_echoed_value_finds_its_rows :
    ¬ ∀ (c : ListConfig) (name : String) (f : ColumnFilter) (v : FieldValue) (kind : CoercionKind),
      v.IsOfKind kind → isReserved name = false → c.filters.get? name = some f →
      f.coercion = kind.coercion → (f.op = .eq ∨ f.op = .isIn) →
        ∃ s, v.text? = some s ∧ kind.coercion s = v ∧
          ∀ record : Record, holds? (c.query (.ofList [(name, s)])).filter record = true ↔
            ∃ stored, record.get? f.column = some stored ∧ stored.compare? v = some .eq := by
  intro h
  obtain ⟨s, hs, hread, -⟩ := h closedConfig "closed" closedFilter (.dateTime leapWithin) .dateTime
    (.dateTime (by decide)) (by decide) rfl (by simp only [closedFilter]) (.inr rfl)
  have htext : (FieldValue.dateTime leapWithin).text? = some "1970-01-01T00:00:05.333333333+00:00" := by
    decide +kernel
  have hafter : CoercionKind.dateTime.coercion "1970-01-01T00:00:05.333333333+00:00" =
      .dateTime ⟨5, 333333333, by decide⟩ := by
    decide +kernel
  obtain rfl := Option.some.inj (hs.symm.trans htext)
  exact absurd (hafter.symm.trans hread) (by decide)

end ListConfig

end Allowlist
