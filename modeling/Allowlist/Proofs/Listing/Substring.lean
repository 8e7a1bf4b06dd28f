import Allowlist.Proofs.Listing.Narrowing
import Allowlist.Proofs.Predicate.Like
import Allowlist.Proofs.Value.Text

/-! # Searching for a text

A filter that searches puts its value between two wildcards. A value without wildcards of its own
takes exactly its own characters, and the two around it take whatever is before and behind. So the
records found are those whose column shows the value somewhere in its text. -/

namespace Allowlist

namespace Like
variable {text needle rest : List Char}

theorem splits_plain (hrun : '%' ∉ needle) (hsingle : '_' ∉ needle) :
    Splits text (needle ++ rest) ↔ ∃ tail, text = needle ++ tail ∧ Splits tail rest := by
  induction needle generalizing text with
  | nil => simp
  | cons p needle ih =>
    rw [List.mem_cons, not_or] at hrun hsingle
    rw [List.cons_append, splits_character (Ne.symm hrun.1)]
    constructor
    · rintro ⟨c, tail, rfl, hfits, htail⟩
      obtain rfl := hfits.resolve_left (Ne.symm hsingle.1)
      obtain ⟨after, rfl, hafter⟩ := (ih hrun.2 hsingle.2).mp htail
      exact ⟨after, rfl, hafter⟩
    · rintro ⟨after, rfl, h⟩
      exact ⟨p, needle ++ after, rfl, .inr rfl, (ih hrun.2 hsingle.2).mpr ⟨after, rfl, h⟩⟩

theorem splits_wildcard (text : List Char) : Splits text ['%'] :=
  splits_run.mpr ⟨text.length, by rw [List.drop_length]; exact splits_nil.mpr rfl⟩

theorem splits_between_wildcards (hrun : '%' ∉ needle) (hsingle : '_' ∉ needle) :
    Splits text ('%' :: (needle ++ ['%'])) ↔ needle <:+: text := by
  rw [splits_cons]
  constructor
  · rintro ⟨before, tail, rfl, -, h⟩
    obtain ⟨after, rfl, -⟩ := (splits_plain hrun hsingle).mp h
    exact ⟨before, after, List.append_assoc ..⟩
  · rintro ⟨before, after, rfl⟩
    exact ⟨before, needle ++ after, List.append_assoc .., .run before,
      (splits_plain hrun hsingle).mpr ⟨after, rfl, splits_wildcard after⟩⟩

end Like

namespace Predicate

theorem holds_like_iff {record : Record} {column : Column} {pattern : String} :
    holds record (.like column pattern) = true ↔ ∃ stored text, record.get? column = some stored ∧
      stored.Shows text ∧ Like.isMatch text.toList pattern.toList = true := by
  simp only [holds, likeColumn, ← FieldValue.text?_eq_some_iff]
  cases record.get? column with
  | none => simp
  | some stored => cases h : stored.text? <;> simp [h]

theorem holds_search_iff {record : Record} {column : Column} {value : String}
    (hrun : '%' ∉ value.toList) (hsingle : '_' ∉ value.toList) :
    holds record (.like column ("%" ++ value ++ "%")) = true ↔ ∃ stored text,
      record.get? column = some stored ∧ stored.Shows text ∧ value.toList <:+: text.toList := by
  have hpattern : ("%" ++ value ++ "%").toList = '%' :: (value.toList ++ ['%']) := by simp
  simp only [holds_like_iff, hpattern, Like.isMatch_iff_splits,
    Like.splits_between_wildcards hrun hsingle]

end Predicate

open Predicate

theorem ColumnFilter.condition_of_contains {f : ColumnFilter} (hop : f.op = .contains)
    (hplain : f.coercion = Coercion.identity) (raw : String) :
    f.condition raw = .like f.column ("%" ++ raw ++ "%") := by
  have hoperand : f.operand raw = .single (.string raw) := by
    rw [operand, hop, hplain]; rfl
  rw [condition, hop, hoperand]; rfl

namespace ListConfig
variable {c : ListConfig} {name value : String} {f : ColumnFilter}

/-- A search for a value without wildcards finds the records that have the column, not null, with
the value as a run of consecutive characters in its text. -/
theorem search_finds_substrings (hname : isReserved name = false)
    (hf : c.filters.get? name = some f) (hop : f.op = .contains)
    (hplain : f.coercion = Coercion.identity) (hvalue : value ≠ "") (hrun : '%' ∉ value.toList)
    (hsingle : '_' ∉ value.toList) (record : Record) :
    holds? (c.query (.ofList [(name, value)])).filter record = true ↔
      ∃ stored text, record.get? f.column = some stored ∧ stored ≠ .null ∧ stored.Shows text ∧
        value.toList <:+: text.toList := by
  rw [filter_query_of_filter hname hvalue hf, f.condition_of_contains hop hplain, holds?,
    Option.all_some, holds_search_iff hrun hsingle]
  constructor
  · rintro ⟨stored, text, hstored, hshows, hinfix⟩
    have hne : stored ≠ .null := by
      rintro rfl
      cases hshows
    exact ⟨stored, text, hstored, hne, hshows, hinfix⟩
  · rintro ⟨stored, text, hstored, -, hshows, hinfix⟩
    exact ⟨stored, text, hstored, hshows, hinfix⟩

def noteFilter : ColumnFilter where
  column := "note"
  op := .contains

def noteConfig : ListConfig :=
  { ticketConfig with filters := .ofList [("q", noteFilter)] }

/-- The value is found behind near matches that overlap it, and not where its letters are apart. -/
theorem overlapping_near_matches :
    let found : Record := .ofList [("note", .string "aaéaaéab")]
    let parted : Record := .ofList [("note", .string "aaéaéaab")]
    isReserved "q" = false ∧ noteConfig.filters.get? "q" = some noteFilter ∧
      noteFilter.op = .contains ∧ noteFilter.coercion = Coercion.identity ∧
      "aéab" ≠ "" ∧ '%' ∉ "aéab".toList ∧ '_' ∉ "aéab".toList ∧
      holds? (noteConfig.query (.ofList [("q", "aéab")])).filter found = true ∧
      holds? (noteConfig.query (.ofList [("q", "aéab")])).filter parted = false := by
  intro found parted
  have hf : noteConfig.filters.get? "q" = some noteFilter := rfl
  have hsearch := search_finds_substrings (c := noteConfig) (by decide) hf rfl rfl
    (show "aéab" ≠ "" by decide) (by decide) (by decide)
  refine ⟨by decide, hf, rfl, rfl, by decide, by decide, by decide, ?_, ?_⟩
  · refine (hsearch found).mpr ⟨.string "aaéaaéab", "aaéaaéab", rfl, nofun, .string _, ?_⟩
    exact ⟨['a', 'a', 'é', 'a'], [], rfl⟩
  · rw [Bool.eq_false_iff, Ne, hsearch parted]
    rintro ⟨stored, text, hstored, -, hshows, hinfix⟩
    cases hstored
    cases hshows
    simp [List.infix_cons_iff] at hinfix

end ListConfig

end Allowlist
