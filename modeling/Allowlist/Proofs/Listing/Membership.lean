import Allowlist.Proofs.Listing.Closing
import Allowlist.Proofs.Text.Split

/-! # Lists of values

A filter that takes a list reads it between the commas of its parameter. Every comma parts two
segments, of which any may be empty, and each segment is coerced by itself. So a text behind another
one and a comma adds its own segments, and a record passes both together if it passes either. -/

namespace Allowlist

open Predicate

theorem segments_append (x y : String) : segments (x ++ "," ++ y) = segments x ++ segments y := by
  have hchars : (x ++ "," ++ y).toList = x.toList ++ ',' :: y.toList := by simp
  rw [segments, hchars, Text.splitAt_append_separator, List.map_append]; rfl

theorem length_segments (raw : String) : (segments raw).length = raw.toList.count ',' + 1 := by
  rw [segments, List.length_map, Text.length_splitAt]

theorem comma_not_mem_segment {raw segment : String} (h : segment ∈ segments raw) :
    ',' ∉ segment.toList := by
  obtain ⟨piece, hpiece, rfl⟩ := List.mem_map.mp h
  rw [String.toList_ofList]
  exact Text.not_mem_of_mem_splitAt piece hpiece

theorem intercalate_segments (raw : String) : ",".intercalate (segments raw) = raw := by
  have hpieces : (segments raw).map String.toList = Text.splitAt ',' raw.toList := by
    rw [segments, List.map_map]
    exact List.map_id'' (fun _ => String.toList_ofList) _
  refine String.toList_inj.mp ?_
  rw [String.toList_intercalate, hpieces]
  exact Text.intercalate_splitAt ',' raw.toList

theorem Predicate.holds_isIn_append {record : Record} {column : Column} (vs ws : List FieldValue) :
    holds record (.isIn column (vs ++ ws)) =
      (holds record (.isIn column vs) || holds record (.isIn column ws)) := by
  simp only [holds, inColumn]
  cases record.get? column with
  | none => rfl
  | some stored => exact List.any_append

theorem ColumnFilter.condition_of_isIn {f : ColumnFilter} (h : f.op = .isIn) (raw : String) :
    f.condition raw = .isIn f.column ((segments raw).map f.coercion) := by
  have htexts : f.texts raw = segments raw := by rw [texts, h]; rfl
  rw [condition, h, FilterOp.apply, f.toMany_operand, htexts]

namespace ListConfig
variable {c : ListConfig} {name : String} {f : ColumnFilter}

theorem filter_query_of_isIn (hname : isReserved name = false) (hf : c.filters.get? name = some f)
    (hop : f.op = .isIn) {raw : String} (hraw : raw ≠ "") :
    (c.query (.ofList [(name, raw)])).filter =
      some (.isIn f.column ((segments raw).map f.coercion)) := by
  rw [filter_query_of_filter hname hraw hf, f.condition_of_isIn hop]

/-- A list parameter of two parts lets through what either part does. Its operands are the coerced
segments, one more than there are commas; they hold no comma themselves, and with commas between
them they are the whole parameter. -/
theorem membership_is_union_of_segments (hname : isReserved name = false)
    (hf : c.filters.get? name = some f) (hop : f.op = .isIn) :
    (∀ (record : Record) (x y : String), x ≠ "" → y ≠ "" →
      (holds? (c.query (.ofList [(name, x ++ "," ++ y)])).filter record = true ↔
        holds? (c.query (.ofList [(name, x)])).filter record = true ∨
          holds? (c.query (.ofList [(name, y)])).filter record = true)) ∧
    ∀ raw : String, raw ≠ "" →
      (c.query (.ofList [(name, raw)])).filter =
          some (.isIn f.column ((segments raw).map f.coercion)) ∧
        ((segments raw).map f.coercion).length = raw.toList.count ',' + 1 ∧
        (∀ segment ∈ segments raw, ',' ∉ segment.toList) ∧
        ",".intercalate (segments raw) = raw := by
  refine ⟨fun record x y hx hy => ?_, fun raw hraw => ⟨?_, ?_, ?_, ?_⟩⟩
  · have hboth : x ++ "," ++ y ≠ "" := by simp
    rw [filter_query_of_isIn hname hf hop hboth, filter_query_of_isIn hname hf hop hx,
      filter_query_of_isIn hname hf hop hy, segments_append, List.map_append]
    simp only [holds?, Option.all_some, holds_isIn_append, Bool.or_eq_true]
  · exact filter_query_of_isIn hname hf hop hraw
  · rw [List.length_map, length_segments]
  · exact fun segment => comma_not_mem_segment
  · exact intercalate_segments raw

/-- Doubled commas and a comma in front keep their empty segments, which are no numbers; the owner
is found behind them. -/
theorem owners_are_united :
    let ticket : Record := .ofList [("owner", .integer 7), ("state", .string "open")]
    isReserved "owner" = false ∧ ownerConfig.filters.get? "owner" = some ownerFilter ∧
      ownerFilter.op = .isIn ∧ "8,," ≠ "" ∧ ", 7" ≠ "" ∧
      holds? (ownerConfig.query (.ofList [("owner", "8,,")])).filter ticket = false ∧
      holds? (ownerConfig.query (.ofList [("owner", "8,," ++ "," ++ ", 7")])).filter ticket = true ∧
      ((segments "8,,,, 7").map Coercion.integer).length = 5 ∧
      ",".intercalate (segments "8,,,, 7") = "8,,,, 7" := by
  intro ticket
  have hf : ownerConfig.filters.get? "owner" = some ownerFilter := rfl
  obtain ⟨hunion, hsegments⟩ := membership_is_union_of_segments (by decide) hf rfl
  obtain ⟨-, hlength, -, hjoined⟩ := hsegments "8,,,, 7" (by decide)
  refine ⟨by decide, hf, rfl, by decide, by decide, by decide, ?_, hlength, hjoined⟩
  exact (hunion ticket "8,," ", 7" (by decide) (by decide)).mpr (.inr (by decide))

end ListConfig

end Allowlist
