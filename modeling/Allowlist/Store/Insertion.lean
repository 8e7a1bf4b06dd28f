import Allowlist.Store.Sorter

/-! # Sorting by insertion

Each item in turn goes in behind those that it does not come before. Where the comparison is a total
preorder that is a stable sort; whatever the comparison, it only moves the items. -/

namespace Allowlist

variable {α : Type}

/-- Puts an item behind sorted ones, which are given last to first: it passes those that it comes
before. -/
def insertFromEnd (cmp : α → α → Ordering) (a : α) : List α → List α
  | [] => [a]
  | b :: rest => if cmp a b = .lt then b :: insertFromEnd cmp a rest else a :: b :: rest

def insertAllFromEnd (cmp : α → α → Ordering) (items sorted : List α) : List α :=
  items.foldl (fun sorted a => insertFromEnd cmp a sorted) sorted

/-- The items in order, where items of one place stay in the order in which they are given. -/
def insertionSort (cmp : α → α → Ordering) (items : List α) : List α :=
  (insertAllFromEnd cmp items []).reverse

/-! ### The items are the same -/

section
variable (cmp : α → α → Ordering)

theorem insertFromEnd_perm (a : α) (sorted : List α) :
    (insertFromEnd cmp a sorted).Perm (a :: sorted) := by
  induction sorted with
  | nil => exact .refl _
  | cons b rest ih =>
    unfold insertFromEnd
    split
    · exact (ih.cons b).trans (.swap a b rest)
    · exact .refl _

theorem insertAllFromEnd_perm (items sorted : List α) :
    (insertAllFromEnd cmp items sorted).Perm (items ++ sorted) := by
  unfold insertAllFromEnd
  induction items generalizing sorted with
  | nil => exact .refl _
  | cons a rest ih =>
    refine (ih _).trans ?_
    refine ((insertFromEnd_perm cmp a sorted).append_left rest).trans ?_
    exact List.perm_middle

theorem insertionSort_perm (items : List α) : (insertionSort cmp items).Perm items := by
  have h := insertAllFromEnd_perm cmp items []
  rw [List.append_nil] at h
  exact (List.reverse_perm _).trans h

end

/-! ### They are in order -/

section
variable {cmp : α → α → Ordering} {p : α → Prop} {a : α} {items done sorted : List α}

theorem insertFromEnd_eq (cmp : α → α → Ordering) (a : α) (xs : List α) :
    insertFromEnd cmp a xs = xs.takeWhile (cmp a · = .lt) ++ a :: xs.dropWhile (cmp a · = .lt) := by
  induction xs with
  | nil => rfl
  | cons b xs ih =>
    unfold insertFromEnd
    by_cases hab : cmp a b = .lt
    · simp only [hab, if_true, decide_true, List.takeWhile_cons_of_pos, List.dropWhile_cons_of_pos,
        List.cons_append, ih]
    · simp only [hab, if_false, decide_false, Bool.false_eq_true, not_false_eq_true,
        List.takeWhile_cons_of_neg, List.dropWhile_cons_of_neg, List.nil_append]

/-- Of the items that are not passed the last one is not behind the new item, so none of them is. -/
theorem ne_gt_of_mem_dropWhile (h : Preorders cmp p) (hp : ∀ b ∈ sorted, p b) (ha : p a)
    (hordered : sorted.reverse.Pairwise (cmp · · ≠ .gt)) {b : α}
    (hb : b ∈ sorted.dropWhile (cmp a · = .lt)) : cmp b a ≠ .gt := by
  have hkept (c : α) (hc : c ∈ sorted.dropWhile (cmp a · = .lt)) : p c :=
    hp c ((List.dropWhile_sublist _).mem hc)
  have hlast := List.head?_dropWhile_not (fun b => decide (cmp a b = .lt)) sorted
  have hpairs := (List.pairwise_reverse.mp hordered).sublist
    (List.dropWhile_sublist (fun b => decide (cmp a b = .lt)))
  cases hdrop : sorted.dropWhile (cmp a · = .lt) with
  | nil => rw [hdrop] at hb; exact absurd hb List.not_mem_nil
  | cons d rest =>
    rw [hdrop] at hb hlast hpairs hkept
    have hpd : p d := hkept d List.mem_cons_self
    have hda : cmp d a ≠ .gt := h.ne_gt_of_ne_lt ha hpd (by simpa using hlast)
    rcases List.mem_cons.mp hb with rfl | hb'
    · exact hda
    · exact h.trans (hkept b hb) hpd ha (List.rel_of_pairwise_cons hpairs hb') hda

theorem IsStableSort.insertFromEnd (h : Preorders cmp p) (hp : ∀ b ∈ done, p b) (ha : p a)
    (hs : IsStableSort cmp done sorted.reverse) :
    IsStableSort cmp (done ++ [a]) (insertFromEnd cmp a sorted).reverse := by
  have hsorted (b : α) (hb : b ∈ sorted) : p b := hp b (hs.mem_iff.mp (List.mem_reverse.mpr hb))
  have hordered := hs.ordered
  rw [← List.takeWhile_append_dropWhile (p := fun b => decide (cmp a b = .lt)) (l := sorted),
    List.reverse_append] at hs
  rw [insertFromEnd_eq, List.reverse_append, List.reverse_cons, List.append_assoc,
    List.singleton_append]
  refine hs.insert h hp ha (fun b hb => ?_) fun b hb => ?_
  · exact ne_gt_of_mem_dropWhile h hsorted ha hordered (List.mem_reverse.mp hb)
  · exact of_decide_eq_true (List.all_eq_true.mp List.all_takeWhile b (List.mem_reverse.mp hb))

theorem IsStableSort.insertAllFromEnd (h : Preorders cmp p) (hp : ∀ b ∈ done ++ items, p b)
    (hs : IsStableSort cmp done sorted.reverse) :
    IsStableSort cmp (done ++ items) (insertAllFromEnd cmp items sorted).reverse := by
  unfold Allowlist.insertAllFromEnd
  induction items generalizing done sorted with
  | nil => rwa [List.append_nil]
  | cons a rest ih =>
    rw [List.append_cons] at hp ⊢
    have hdone (b : α) (hb : b ∈ done ++ [a]) : p b := hp b (List.mem_append_left _ hb)
    have ha : p a := hdone a (List.mem_append_right _ List.mem_cons_self)
    exact ih hp (hs.insertFromEnd h (fun b hb => hdone b (List.mem_append_left _ hb)) ha)

theorem isStableSort_insertionSort (h : Preorders cmp (· ∈ items)) :
    IsStableSort cmp items (insertionSort cmp items) := by
  have hnil : IsStableSort cmp [] ([] : List α).reverse :=
    ⟨.refl _, .nil, fun a ha => absurd ha List.not_mem_nil⟩
  exact hnil.insertAllFromEnd h fun b hb => hb

end

/-- Sorts by insertion, and breaks off where more than twenty items do not come out in order. -/
def Sorter.insertion : Sorter α where
  sort cmp items :=
    let sorted := insertionSort cmp items
    if items.length ≤ 20 ∨ sorted.Pairwise (cmp · · ≠ .gt) then some sorted else none
  perm {cmp items sorted} h := by
    dsimp only at h
    split at h
    · exact Option.some.inj h ▸ insertionSort_perm cmp items
    · cases h
  sorts {cmp items} h := by
    have hs := isStableSort_insertionSort h
    exact ⟨_, if_pos (.inr hs.ordered), hs⟩

end Allowlist
