import Allowlist.Text.Split

/-! # The pieces between separators

Joined again with the separator, the pieces of a list give it back, and joined pieces without a
separator are what the split finds. An item that is no separator stays in the first piece, and a
separator parts the pieces in front of it from those behind it, empty ones included. A cut is at the
first separator there is. -/

namespace Allowlist.Text

variable {α : Type}

theorem intercalate_consFirst (sep : List α) (a : α) {pieces : List (List α)} (h : pieces ≠ []) :
    sep.intercalate (consFirst a pieces) = a :: sep.intercalate pieces := by
  match pieces, h with
  | [piece], _ => simp [consFirst]
  | piece :: next :: rest, _ => simp [consFirst, List.intercalate_cons_cons]

theorem length_consFirst (a : α) {pieces : List (List α)} (h : pieces ≠ []) :
    (consFirst a pieces).length = pieces.length := by
  match pieces, h with
  | _ :: _, _ => rfl

theorem consFirst_append (a : α) {pieces : List (List α)} (h : pieces ≠ [])
    (more : List (List α)) : consFirst a (pieces ++ more) = consFirst a pieces ++ more := by
  match pieces, h with
  | _ :: _, _ => rfl

theorem not_mem_consFirst {separator a : α} {pieces : List (List α)} (ha : separator ≠ a)
    (h : ∀ piece ∈ pieces, separator ∉ piece) : ∀ piece ∈ consFirst a pieces, separator ∉ piece := by
  cases pieces with
  | nil => simpa [consFirst] using ha
  | cons piece pieces =>
    obtain ⟨hpiece, hrest⟩ := List.forall_mem_cons.mp h
    exact List.forall_mem_cons.mpr ⟨by simp [ha, hpiece], hrest⟩

theorem not_mem_intercalate {a : α} {sep : List α} {pieces : List (List α)} (hsep : a ∉ sep)
    (h : ∀ piece ∈ pieces, a ∉ piece) : a ∉ sep.intercalate pieces := by
  induction pieces with
  | nil => simp
  | cons piece pieces ih =>
    obtain ⟨hpiece, hrest⟩ := List.forall_mem_cons.mp h
    cases pieces with
    | nil => simpa using hpiece
    | cons next pieces =>
      rw [List.intercalate_cons_cons, List.mem_append, List.mem_append]
      rintro ((ha | ha) | ha)
      · exact hpiece ha
      · exact hsep ha
      · exact ih hrest ha

variable [DecidableEq α]

theorem splitAt_ne_nil (separator : α) (s : List α) : splitAt separator s ≠ [] := by
  cases s with
  | nil => simp [splitAt]
  | cons a rest =>
    rw [splitAt]
    split
    · simp
    · cases splitAt separator rest <;> simp [consFirst]

theorem intercalate_splitAt (separator : α) (s : List α) :
    [separator].intercalate (splitAt separator s) = s := by
  induction s with
  | nil => simp [splitAt]
  | cons a rest ih =>
    rw [splitAt]
    split
    · next h =>
      obtain ⟨piece, pieces, hp⟩ := List.exists_cons_of_ne_nil (splitAt_ne_nil separator rest)
      rw [hp, List.intercalate_cons_cons, ← hp, ih, h]; rfl
    · rw [intercalate_consFirst _ _ (splitAt_ne_nil separator rest), ih]

theorem splitAt_cons_of_ne {separator a : α} (h : a ≠ separator) (s : List α) :
    splitAt separator (a :: s) = consFirst a (splitAt separator s) := by
  rw [splitAt, if_neg h]

theorem splitAt_of_not_mem {separator : α} {s : List α} (h : separator ∉ s) :
    splitAt separator s = [s] := by
  induction s with
  | nil => rfl
  | cons a rest ih =>
    rw [List.mem_cons, not_or] at h
    rw [splitAt_cons_of_ne (Ne.symm h.1), ih h.2]; rfl

theorem splitAt_cons_self (separator : α) (s : List α) :
    splitAt separator (separator :: s) = [] :: splitAt separator s := by
  rw [splitAt, if_pos rfl]

theorem splitAt_append_separator (separator : α) (s rest : List α) :
    splitAt separator (s ++ separator :: rest) = splitAt separator s ++ splitAt separator rest := by
  induction s with
  | nil => exact splitAt_cons_self separator rest
  | cons a s ih =>
    by_cases h : a = separator
    · subst h
      rw [List.cons_append, splitAt_cons_self, splitAt_cons_self, ih]; rfl
    · rw [List.cons_append, splitAt_cons_of_ne h, splitAt_cons_of_ne h, ih,
        consFirst_append a (splitAt_ne_nil separator s)]

theorem splitAt_append {separator : α} {s : List α} (h : separator ∉ s) (rest : List α) :
    splitAt separator (s ++ separator :: rest) = s :: splitAt separator rest := by
  rw [splitAt_append_separator, splitAt_of_not_mem h]; rfl

theorem length_splitAt (separator : α) (s : List α) :
    (splitAt separator s).length = s.count separator + 1 := by
  induction s with
  | nil => rfl
  | cons a s ih =>
    by_cases h : a = separator
    · subst h
      rw [splitAt_cons_self, List.length_cons, ih, List.count_cons_self]
    · rw [splitAt_cons_of_ne h, length_consFirst a (splitAt_ne_nil separator s), ih,
        List.count_cons_of_ne h]

theorem not_mem_of_mem_splitAt {separator : α} {s : List α} :
    ∀ piece ∈ splitAt separator s, separator ∉ piece := by
  induction s with
  | nil => simp [splitAt]
  | cons a s ih =>
    by_cases h : a = separator
    · subst h
      rw [splitAt_cons_self]
      exact List.forall_mem_cons.mpr ⟨List.not_mem_nil, ih⟩
    · rw [splitAt_cons_of_ne h]
      exact not_mem_consFirst (Ne.symm h) ih

theorem cutAt_cons (separator a : α) (s : List α) : cutAt separator (a :: s) =
    if a = separator then ([], some s) else (a :: (cutAt separator s).1, (cutAt separator s).2) := by
  unfold cutAt
  by_cases h : a = separator
  · simp [h]
  · simp only [List.dropWhile_cons, List.takeWhile_cons, ne_eq, h, not_false_eq_true, decide_true,
      if_true, if_false]
    split <;> rfl

theorem cutAt_of_not_mem {separator : α} {s : List α} (h : separator ∉ s) :
    cutAt separator s = (s, none) := by
  induction s with
  | nil => rfl
  | cons a rest ih =>
    rw [List.mem_cons, not_or] at h
    rw [cutAt_cons, if_neg (Ne.symm h.1), ih h.2]

theorem cutAt_append {separator : α} {s : List α} (h : separator ∉ s) (rest : List α) :
    cutAt separator (s ++ separator :: rest) = (s, some rest) := by
  induction s with
  | nil => rw [List.nil_append, cutAt_cons, if_pos rfl]
  | cons a s ih =>
    rw [List.mem_cons, not_or] at h
    rw [List.cons_append, cutAt_cons, if_neg (Ne.symm h.1), ih h.2]

end Allowlist.Text
