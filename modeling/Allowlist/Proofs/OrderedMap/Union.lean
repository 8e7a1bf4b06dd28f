import Allowlist.Proofs.Entries
import Mathlib.Data.List.Induction
import Mathlib.Data.List.Nodup

/-! # Maps written into one another

A map into which entries were written one after another lists each name once, in the order in which
the names first came. Writing a whole map into another one associates: it makes no difference
whether a last entry goes into the second map before that is written into the first, or into the
first one after it. -/

namespace Allowlist

section
variable {α : Type} [DecidableEq α]

theorem eraseDups_concat (l : List α) (a : α) :
    (l ++ [a]).eraseDups = if a ∈ l then l.eraseDups else l.eraseDups ++ [a] := by
  rw [List.eraseDups_append]
  by_cases h : a ∈ l
  · simp [List.removeAll, h]
  · simp [List.removeAll, h, List.eraseDups_cons]

theorem eraseDups_of_nodup {l : List α} (h : l.Nodup) : l.eraseDups = l := by
  induction l using List.reverseRecOn with
  | nil => rfl
  | append_singleton l a ih =>
    obtain ⟨hl, -, hfresh⟩ := List.nodup_append.mp h
    have ha : a ∉ l := fun ha => hfresh a ha a (by simp) rfl
    rw [eraseDups_concat, if_neg ha, ih hl]

end

namespace OrderedMap
variable {α : Type} {m n : OrderedMap α} {name : String} {a : α}

theorem keys_foldl_insert (entries : List (String × α)) (m : OrderedMap α) :
    (entries.foldl (fun m e => m.insert e.1 e.2) m).keys =
      (m.keys ++ entries.map Prod.fst).eraseDups := by
  induction entries using List.reverseRecOn with
  | nil =>
    have hnodup : m.keys.Nodup := m.nodup
    simp [eraseDups_of_nodup hnodup]
  | append_singleton entries entry ih =>
    rw [List.foldl_append, List.foldl_cons, List.foldl_nil, keys_insert, ih, List.map_append,
      List.map_singleton, ← List.append_assoc, eraseDups_concat]
    simp only [List.mem_eraseDups]

/-- In a map an entry is the only one of its name. -/
theorem isLast_entries_iff : IsLast m.entries name a ↔ m.get? name = some a := by
  have hapart {before after : List (String × α)} (heq : m.entries = before ++ (name, a) :: after) :
      ∀ entry ∈ before ++ after, entry.1 ≠ name := by
    have hnodup := m.nodup
    rw [heq, List.map_append, List.map_cons, List.nodup_middle, ← List.map_append] at hnodup
    intro entry hentry hname
    exact (List.nodup_cons.mp hnodup).1 (List.mem_map.mpr ⟨entry, hentry, hname⟩)
  rw [get?, List.lookup_eq_some_iff]
  constructor
  · rintro ⟨before, after, heq, -⟩
    refine ⟨before, after, heq, fun entry hentry => ?_⟩
    simpa using (hapart heq entry (List.mem_append_left _ hentry)).symm
  · rintro ⟨before, after, heq, -⟩
    exact ⟨before, after, heq, fun entry hentry => hapart heq entry (List.mem_append_right _ hentry)⟩

theorem keys_insertAll (m n : OrderedMap α) :
    (m.insertAll n).keys = (m.keys ++ n.keys).eraseDups :=
  keys_foldl_insert n.entries m

theorem get?_insertAll (m n : OrderedMap α) (name : String) :
    (m.insertAll n).get? name = (n.get? name).or (m.get? name) := by
  have hlast : n.entries.reverse.lookup name = n.get? name :=
    Option.ext fun a => lookup_reverse_eq_some_iff.trans isLast_entries_iff
  rw [insertAll, get?_foldl_insert, hlast]

theorem insertAll_empty (m : OrderedMap α) : m.insertAll ∅ = m := rfl

theorem empty_insertAll (m : OrderedMap α) : (∅ : OrderedMap α).insertAll m = m := by
  refine ext_of_get? ?_ fun name => ?_
  · rw [keys_insertAll]
    exact eraseDups_of_nodup m.nodup
  · rw [get?_insertAll]
    exact Option.or_none

theorem insertAll_insert (m n : OrderedMap α) (name : String) (a : α) :
    m.insertAll (n.insert name a) = (m.insertAll n).insert name a := by
  refine ext_of_get? ?_ fun other => ?_
  · simp only [keys_insertAll, keys_insert, List.mem_eraseDups]
    by_cases hn : name ∈ n.keys
    · simp [hn]
    · rw [if_neg hn, ← List.append_assoc, eraseDups_concat]
  · simp only [get?_insertAll, get?_insert]
    by_cases h : other = name <;> simp [h]

theorem insertAll_assoc (m n k : OrderedMap α) :
    m.insertAll (n.insertAll k) = (m.insertAll n).insertAll k := by
  have hrun (entries : List (String × α)) (n : OrderedMap α) :
      m.insertAll (entries.foldl (fun m e => m.insert e.1 e.2) n) =
        entries.foldl (fun m e => m.insert e.1 e.2) (m.insertAll n) := by
    induction entries generalizing n with
    | nil => rfl
    | cons entry rest ih => rw [List.foldl_cons, ih, insertAll_insert, List.foldl_cons]
  exact hrun k.entries n

end OrderedMap

end Allowlist
