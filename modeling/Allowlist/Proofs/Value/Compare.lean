import Allowlist.Proofs.Value.Order
import Allowlist.Proofs.Value.Text

/-! # Comparison of values

Turned around, a comparison gives the reverse, whatever the kinds. Values that compare are of one
rank, and where neither is a double the comparison is their place in the order of all values. That
order is transitive away from doubles, so comparison is too: two steps that do not go in opposite
directions make one. Texts and UUIDs compare by their texts. -/

namespace Allowlist

theorem cmp_then {α : Type} {cmp : α → α → Ordering} [Std.TransCmp cmp] {a b c : α} {o o' : Ordering}
    (hab : cmp a b = o) (hbc : cmp b c = o') (h : o = o' ∨ o = .eq ∨ o' = .eq) :
    cmp a c = o.then o' := by
  rcases h with rfl | rfl | rfl
  · cases o with
    | lt => exact Std.TransCmp.lt_trans hab hbc
    | eq => exact Std.TransCmp.eq_trans hab hbc
    | gt => exact Std.TransCmp.gt_trans hab hbc
  · rw [Std.TransCmp.congr_left hab, hbc, Ordering.eq_then]
  · rw [← Std.TransCmp.congr_right hbc, hab, Ordering.then_eq]

namespace FieldValue
variable {a b c : FieldValue} {o o' : Ordering} {s t : String}

theorem sqlEq_comm (a b : FieldValue) : a.sqlEq b = b.sqlEq a := by
  rw [sqlEq, sqlEq, compare?_swap a b]
  cases a.compare? b with
  | none => rfl
  | some o => cases o <;> rfl

/-! ### Away from doubles -/

/-- A value that is no double. -/
abbrev Exact := { v : FieldValue // ∀ x, v ≠ .float x }

def Exact.order (a b : Exact) : Ordering := a.1.order b.1

instance : Std.TransCmp Exact.order where
  eq_swap := order_swap _ _
  isLE_trans {a b c} hab hbc := by
    rw [← Ordering.ne_gt_iff_isLE] at *
    exact order_trans (fun x hx => absurd hx (b.2 x)) hab hbc

theorem order_of_compare? (h : a.compare? b = some o) : a.order b = o := by
  rw [order, h, Option.getD_some]

theorem rank_of_compare? (h : a.compare? b = some o) : a.kindRank = b.kindRank := by
  cases a <;> cases b <;> first | rfl | cases h

theorem compare?_eq_order {a b : Exact} (hnull : a.1 ≠ .null) (hrank : a.1.kindRank = b.1.kindRank) :
    a.1.compare? b.1 = some (a.order b) := by
  obtain ⟨a, ha⟩ := a
  obtain ⟨b, hb⟩ := b
  cases a with
  | null => exact absurd rfl hnull
  | float x => exact absurd rfl (ha x)
  | integer i =>
    cases b <;> cases hrank
    · rfl
    · exact absurd rfl (hb _)
  | boolean | uuid | dateTime | string => cases b <;> cases hrank <;> rfl

theorem compare?_then {a b c : Exact} (hab : a.1.compare? b.1 = some o)
    (hbc : b.1.compare? c.1 = some o') (h : o = o' ∨ o = .eq ∨ o' = .eq) :
    a.1.compare? c.1 = some (o.then o') := by
  have hnull : a.1 ≠ .null := by
    intro hnull
    rw [hnull, compare?_null_left] at hab
    cases hab
  have hrank := (rank_of_compare? hab).trans (rank_of_compare? hbc)
  have hab : a.order b = o := order_of_compare? hab
  have hbc : b.order c = o' := order_of_compare? hbc
  rw [compare?_eq_order hnull hrank, cmp_then hab hbc h]

/-! ### Texts -/

/-- The text that a string or a UUID is compared by. -/
inductive GoesBy : FieldValue → String → Prop
  | string (s : String) : GoesBy (.string s) s
  | uuid {u : Uuid} {s : String} (h : u.IsText s.toList) : GoesBy (.uuid u) s

theorem eq_of_isText {u : Uuid} (h : u.IsText s.toList) : s = String.ofList u.text := by
  rw [← Uuid.isText_iff.mp h, String.ofList_toList]

theorem GoesBy.compare? (ha : a.GoesBy s) (hb : b.GoesBy t) :
    a.compare? b = some (compare s t) := by
  cases ha with
  | string s =>
    cases hb with
    | string t => rfl
    | uuid hv => rw [eq_of_isText hv]; rfl
  | @uuid u _ hu =>
    rw [eq_of_isText hu]
    cases hb with
    | string t => rfl
    | @uuid v _ hv => rw [eq_of_isText hv, u.compare_text v]; rfl

/-- Comparison is consistent: the reverse of a comparison is the comparison the other way around,
also as equality; without doubles it is transitive; and UUIDs are in the order of their octets as in
that of their texts, by which they compare with strings as well. -/
theorem compare?_consistent :
    (∀ a b : FieldValue, b.compare? a = (a.compare? b).map Ordering.swap ∧ a.sqlEq b = b.sqlEq a) ∧
    (∀ (a b c : Exact) (o o' : Ordering), a.1.compare? b.1 = some o → b.1.compare? c.1 = some o' →
      o = o' ∨ o = .eq ∨ o' = .eq → a.1.compare? c.1 = some (o.then o')) ∧
    (∀ (u v : Uuid) (s t : String), u.IsText s.toList → v.IsText t.toList →
      compare u.octets v.octets = compare s t) ∧
    ∀ (a b : FieldValue) (s t : String), a.GoesBy s → b.GoesBy t →
      a.compare? b = some (compare s t) := by
  refine ⟨fun a b => ⟨compare?_swap a b, sqlEq_comm a b⟩, ?_, ?_, ?_⟩
  · exact fun a b c o o' => compare?_then
  · intro u v s t hs ht
    rw [eq_of_isText hs, eq_of_isText ht, u.compare_octets, u.compare_text]
  · exact fun a b s t ha hb => ha.compare? hb

/-- Two UUIDs that part at the last digit of the first group, with a string between them. -/
theorem string_between_uuids :
    let u : Uuid := ⟨0x00000009ffffffffffffffffffffffff⟩
    let v : Uuid := ⟨0x0000000a000000000000000000000000⟩
    let s := "00000009-ffff-ffff-ffff-ffffffffffff"
    let t := "0000000a-0000-0000-0000-000000000000"
    let low : Exact := ⟨.uuid u, fun _ h => by cases h⟩
    let middle : Exact := ⟨.string "0000000A", fun _ h => by cases h⟩
    let high : Exact := ⟨.uuid v, fun _ h => by cases h⟩
    u.IsText s.toList ∧ v.IsText t.toList ∧ low.1.GoesBy s ∧ middle.1.GoesBy "0000000A" ∧
      low.1.compare? middle.1 = some .lt ∧ middle.1.compare? high.1 = some .lt ∧
      low.1.compare? high.1 = some .lt ∧ high.1.compare? low.1 = some .gt ∧
      compare u.octets v.octets = compare s t := by
  intro u v s t low middle high
  obtain ⟨hswap, hthen, hoctets, htexts⟩ := compare?_consistent
  have hu : u.IsText s.toList := Uuid.isText_iff.mpr (by decide +kernel)
  have hv : v.IsText t.toList := Uuid.isText_iff.mpr (by decide +kernel)
  have hlow : low.1.GoesBy s := .uuid hu
  have hhigh : high.1.GoesBy t := .uuid hv
  have hmiddle : middle.1.GoesBy "0000000A" := .string _
  have hst : compare s "0000000A" = .lt := by decide
  have hmt : compare "0000000A" t = .lt := by decide
  have hlm := (htexts _ _ _ _ hlow hmiddle).trans (congrArg some hst)
  have hmh := (htexts _ _ _ _ hmiddle hhigh).trans (congrArg some hmt)
  have hlh : low.1.compare? high.1 = some .lt := hthen low middle high _ _ hlm hmh (.inl rfl)
  refine ⟨hu, hv, hlow, hmiddle, hlm, hmh, hlh, ?_, hoctets u v s t hu hv⟩
  rw [(hswap low.1 high.1).1, hlh]
  rfl

end FieldValue

end Allowlist
