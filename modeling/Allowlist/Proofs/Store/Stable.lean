import Allowlist.Store.Sorter

/-! # What a stable sort gives

Where a comparison is a total preorder, a stable sort is determined by its input: nothing is out of
order, and the items of one place stand in the order in which they came. So how it is done does not
matter. One more item at the end of the input only pushes itself in between the others: they keep
the order that they had, and none of them comes to stand further in front. -/

namespace Allowlist

variable {α : Type} {cmp : α → α → Ordering} {p : α → Prop} {a : α} {items sorted : List α}

/-! ### There is at most one -/

/-- Lists of the same items that are in order, and agree on each place, are the same. -/
theorem eq_of_ordered (h : Preorders cmp p) {xs ys : List α} (hp : ∀ b ∈ xs, p b)
    (hperm : xs.Perm ys) (hxs : xs.Pairwise (cmp · · ≠ .gt)) (hys : ys.Pairwise (cmp · · ≠ .gt))
    (hf : ∀ b ∈ xs, xs.filter (cmp b · = .eq) = ys.filter (cmp b · = .eq)) : xs = ys := by
  induction xs generalizing ys with
  | nil => exact (List.nil_perm.mp hperm).symm
  | cons a xs ih =>
    cases ys with
    | nil => exact absurd hperm.symm (List.not_perm_nil_cons a xs)
    | cons b ys =>
      have ha : p a := hp a List.mem_cons_self
      have hb : p b := hp b (hperm.mem_iff.mpr List.mem_cons_self)
      have hle : ∀ {c d : α} {zs : List α}, (c :: zs).Pairwise (cmp · · ≠ .gt) → p c →
          d ∈ c :: zs → cmp c d ≠ .gt := by
        intro c d zs hzs hc hd
        rcases List.mem_cons.mp hd with rfl | hd
        · rw [h.refl hc]; decide
        · exact List.rel_of_pairwise_cons hzs hd
      -- each head is not behind the other, so they are of one place and the first ones of it
      have hab : cmp a b = .eq :=
        h.eq_of_ne_gt ha hb (hle hxs ha (hperm.mem_iff.mpr List.mem_cons_self))
          (hle hys hb (hperm.mem_iff.mp List.mem_cons_self))
      have hheads := hf a List.mem_cons_self
      rw [List.filter_cons_of_pos (by simp only [h.refl ha, decide_true]),
        List.filter_cons_of_pos (by simp only [hab, decide_true])] at hheads
      obtain ⟨rfl, -⟩ := List.cons.inj hheads
      refine congrArg (a :: ·) (ih (fun c hc => hp c (.tail _ hc)) hperm.cons_inv hxs.tail hys.tail
        fun c hc => ?_)
      have hcs := hf c (.tail _ hc)
      simp only [List.filter_cons] at hcs
      split at hcs
      · exact (List.cons.inj hcs).2
      · exact hcs

namespace IsStableSort
variable {sorted' : List α}

theorem unique (h : Preorders cmp p) (hp : ∀ b ∈ items, p b) (hs : IsStableSort cmp items sorted)
    (hs' : IsStableSort cmp items sorted') : sorted = sorted' := by
  refine eq_of_ordered h (fun b hb => hp b (hs.mem_iff.mp hb)) (hs.perm.trans hs'.perm.symm)
    hs.ordered hs'.ordered fun b hb => ?_
  have hb := hs.mem_iff.mp hb
  rw [hs.stable b hb, hs'.stable b hb]

/-! ### One item more -/

theorem exists_last (h : Preorders cmp p) (ha : p a)
    (hs : IsStableSort cmp (items ++ [a]) sorted) :
    ∃ front back, sorted = front ++ a :: back ∧ ∀ b ∈ back, cmp a b ≠ .eq := by
  have hplace : sorted.filter (cmp a · = .eq) = items.filter (cmp a · = .eq) ++ [a] := by
    rw [hs.stable a (List.mem_append_right _ List.mem_cons_self), List.filter_append,
      List.filter_cons_of_pos (by simp only [h.refl ha, decide_true]), List.filter_nil]
  obtain ⟨front, rest, rfl, -, hrest⟩ := List.filter_eq_append_iff.mp hplace
  obtain ⟨mid, back, rfl, -, -, hback⟩ := List.filter_eq_cons_iff.mp hrest
  refine ⟨front ++ mid, back, (List.append_assoc ..).symm, fun b hb hab => ?_⟩
  exact List.filter_eq_nil_iff.mp hback b hb (decide_eq_true hab)

theorem remove (h : Preorders cmp p) (hp : ∀ b ∈ items, p b) (ha : p a) {front back : List α}
    (hs : IsStableSort cmp (items ++ [a]) (front ++ a :: back))
    (hback : ∀ b ∈ back, cmp a b ≠ .eq) : IsStableSort cmp items (front ++ back) := by
  have hsub : (front ++ back).Sublist (front ++ a :: back) :=
    (List.sublist_cons_self a back).append_left front
  have hperm : (front ++ back).Perm items := by
    have hall := List.perm_middle.symm.trans (hs.perm.trans (List.perm_append_singleton a items))
    exact hall.cons_inv
  refine ⟨hperm, hs.ordered.sublist hsub, fun c hc => ?_⟩
  have hold := hs.stable c (List.mem_append_left _ hc)
  by_cases hca : cmp c a = .eq
  · have hnone : back.filter (cmp c · = .eq) = [] := by
      refine List.filter_eq_nil_iff.mpr fun b hb hcb => hback b hb ?_
      have hpb := hp b (hperm.mem_iff.mp (List.mem_append_right _ hb))
      exact h.eq_trans ha (hp c hc) hpb (h.eq_symm (hp c hc) ha hca) (of_decide_eq_true hcb)
    simp only [List.filter_append, List.filter_cons, List.filter_nil, hca, decide_true, if_true,
      hnone] at hold
    rw [List.filter_append, hnone, List.append_nil]
    exact List.append_cancel_right hold
  · simpa only [List.filter_append, List.filter_cons, List.filter_nil, hca, decide_false,
      Bool.false_eq_true, if_false, List.append_nil] using hold

/-- With one more item at the end the others keep the order that they had. -/
theorem sublist_concat (h : Preorders cmp p) (hp : ∀ b ∈ items, p b) (ha : p a)
    (hs : IsStableSort cmp items sorted) (hs' : IsStableSort cmp (items ++ [a]) sorted') :
    sorted.Sublist sorted' := by
  obtain ⟨front, back, rfl, hback⟩ := hs'.exists_last h ha
  rw [hs.unique h hp (hs'.remove h hp ha hback)]
  exact (List.sublist_cons_self a back).append_left front

end IsStableSort

end Allowlist
