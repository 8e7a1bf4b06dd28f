/-! # Sorting

What can be relied on where a list is sorted by a comparison that a caller gives. If the comparison
is a total preorder of the items, the sort returns them in order, those of one place as they came. If
it is none, the sort may break off, or return the items in any order at all; but it returns those
items and no others. -/

namespace Allowlist

/-- The comparison is a total preorder of the items of a kind. -/
structure Preorders {α : Type} (cmp : α → α → Ordering) (p : α → Prop) : Prop where
  swap : ∀ {a b}, p a → p b → cmp b a = (cmp a b).swap
  trans : ∀ {a b c}, p a → p b → p c → cmp a b ≠ .gt → cmp b c ≠ .gt → cmp a c ≠ .gt

/-- The items in order, those of one place as they came. -/
structure IsStableSort {α : Type} (cmp : α → α → Ordering) (items sorted : List α) : Prop where
  perm : sorted.Perm items
  ordered : sorted.Pairwise (cmp · · ≠ .gt)
  stable : ∀ a ∈ items, sorted.filter (cmp a · = .eq) = items.filter (cmp a · = .eq)

/-- A way to sort, stable where the comparison is a total preorder. -/
structure Sorter (α : Type) where
  /-- The items in order, or nothing if the sort breaks off. -/
  sort : (cmp : α → α → Ordering) → (items : List α) → Option (List α)
  perm : ∀ {cmp items sorted}, sort cmp items = some sorted → sorted.Perm items
  sorts : ∀ {cmp items}, Preorders cmp (· ∈ items) →
    ∃ sorted, sort cmp items = some sorted ∧ IsStableSort cmp items sorted

variable {α : Type} {cmp : α → α → Ordering} {p q : α → Prop} {a b c : α} {items sorted : List α}

/-! ### Total preorders -/

namespace Preorders
variable (h : Preorders cmp p)
include h

theorem mono (hq : ∀ a, q a → p a) : Preorders cmp q where
  swap ha hb := h.swap (hq _ ha) (hq _ hb)
  trans ha hb hc := h.trans (hq _ ha) (hq _ hb) (hq _ hc)

theorem refl (ha : p a) : cmp a a = .eq := by
  have hswap := h.swap ha ha
  cases hc : cmp a a with
  | eq => rfl
  | lt => rw [hc] at hswap; cases hswap
  | gt => rw [hc] at hswap; cases hswap

theorem eq_symm (ha : p a) (hb : p b) (hab : cmp a b = .eq) : cmp b a = .eq := by
  rw [h.swap ha hb, hab]; rfl

theorem eq_of_ne_gt (ha : p a) (hb : p b) (hab : cmp a b ≠ .gt) (hba : cmp b a ≠ .gt) :
    cmp a b = .eq := by
  rw [h.swap ha hb] at hba
  cases hc : cmp a b with
  | eq => rfl
  | lt => rw [hc] at hba; exact absurd rfl hba
  | gt => exact absurd hc hab

theorem eq_trans (ha : p a) (hb : p b) (hc : p c) (hab : cmp a b = .eq) (hbc : cmp b c = .eq) :
    cmp a c = .eq := by
  have hba := h.eq_symm ha hb hab
  have hcb := h.eq_symm hb hc hbc
  refine h.eq_of_ne_gt ha hc (h.trans ha hb hc ?_ ?_) (h.trans hc hb ha ?_ ?_)
  · rw [hab]; decide
  · rw [hbc]; decide
  · rw [hcb]; decide
  · rw [hba]; decide

theorem ne_gt_of_ne_lt (ha : p a) (hb : p b) (hab : cmp a b ≠ .lt) : cmp b a ≠ .gt := by
  rw [h.swap ha hb]
  cases hc : cmp a b with
  | lt => exact absurd hc hab
  | eq => decide
  | gt => decide

end Preorders

/-! ### Stable sorts -/

namespace IsStableSort

theorem mem_iff (hs : IsStableSort cmp items sorted) : a ∈ sorted ↔ a ∈ items := hs.perm.mem_iff

/-- The items of one place stay as they came, also around an item that is not one of them. -/
theorem filter_eq (h : Preorders cmp p) (hp : ∀ b ∈ items, p b) (hs : IsStableSort cmp items sorted)
    (ha : p a) : sorted.filter (cmp a · = .eq) = items.filter (cmp a · = .eq) := by
  by_cases hd : ∃ d ∈ items, cmp a d = .eq
  · obtain ⟨d, hd, had⟩ := hd
    have hsame : ∀ b ∈ items, decide (cmp a b = .eq) = decide (cmp d b = .eq) := by
      intro b hb
      have hda := h.eq_symm ha (hp d hd) had
      exact decide_eq_decide.mpr
        ⟨h.eq_trans (hp d hd) ha (hp b hb) hda, h.eq_trans ha (hp d hd) (hp b hb) had⟩
    rw [List.filter_congr fun b hb => hsame b (hs.mem_iff.mp hb), hs.stable d hd,
      List.filter_congr hsame]
  · have hne : ∀ b ∈ items, ¬ decide (cmp a b = .eq) = true :=
      fun b hb hab => hd ⟨b, hb, of_decide_eq_true hab⟩
    rw [List.filter_eq_nil_iff.mpr hne,
      List.filter_eq_nil_iff.mpr fun b hb => hne b (hs.mem_iff.mp hb)]

/-- An item put in behind the items that it does not come before. -/
theorem insert (h : Preorders cmp p) (hp : ∀ b ∈ items, p b) (ha : p a) {front back : List α}
    (hs : IsStableSort cmp items (front ++ back)) (hfront : ∀ b ∈ front, cmp b a ≠ .gt)
    (hback : ∀ b ∈ back, cmp a b = .lt) :
    IsStableSort cmp (items ++ [a]) (front ++ a :: back) where
  perm := List.perm_middle.trans ((hs.perm.cons a).trans (List.perm_append_singleton a items).symm)
  ordered := by
    obtain ⟨hf, hb, hfb⟩ := List.pairwise_append.mp hs.ordered
    refine List.pairwise_append.mpr ⟨hf, List.pairwise_cons.mpr ⟨fun b hb => ?_, hb⟩, ?_⟩
    · rw [hback b hb]; decide
    · intro c hc b hb
      rcases List.mem_cons.mp hb with rfl | hb
      · exact hfront c hc
      · exact hfb c hc b hb
  stable := by
    intro c hc
    have hpc : p c := by
      rcases List.mem_append.mp hc with hc | hc
      · exact hp c hc
      · rwa [List.mem_singleton.mp hc]
    have hold := hs.filter_eq h hp hpc
    rw [List.filter_append] at hold
    by_cases hca : cmp c a = .eq
    · -- nothing behind the new item is of its place
      have hnone : back.filter (cmp c · = .eq) = [] := by
        refine List.filter_eq_nil_iff.mpr fun b hb hcb => ?_
        have hpb := hp b (hs.mem_iff.mp (List.mem_append_right _ hb))
        have hab := h.eq_trans ha hpc hpb (h.eq_symm hpc ha hca) (of_decide_eq_true hcb)
        rw [hback b hb] at hab
        cases hab
      rw [hnone, List.append_nil] at hold
      simp only [List.filter_append, List.filter_cons, List.filter_nil, hca, decide_true, if_true,
        hnone, hold]
    · simp only [List.filter_append, List.filter_cons, List.filter_nil, hca, decide_false,
        Bool.false_eq_true, if_false, hold, List.append_nil]

end IsStableSort

end Allowlist
