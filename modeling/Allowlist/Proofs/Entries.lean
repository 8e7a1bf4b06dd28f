import Allowlist.Proofs.OrderedMap

/-! # The last entry of a name

Where a name has several entries the last one counts, among the parameters of a request as among
the sort keys that are declared. `IsLast` says so without a look-up: no entry behind it has its
name. Looking a name up from the end finds that entry, and so does a look-up in a map into which the
entries were written one after another. -/

namespace Allowlist

/-- The entry of a name that has no other entry of the name behind it. -/
def IsLast {α : Type} (entries : List (String × α)) (name : String) (a : α) : Prop :=
  ∃ before after, entries = before ++ (name, a) :: after ∧ ∀ entry ∈ after, entry.1 ≠ name

section
variable {α : Type} {entries : List (String × α)} {name : String} {a b : α}

theorem lookup_reverse_eq_some_iff :
    entries.reverse.lookup name = some a ↔ IsLast entries name a := by
  rw [List.lookup_eq_some_iff]
  constructor
  · rintro ⟨after, before, heq, hafter⟩
    refine ⟨before.reverse, after.reverse, ?_, fun entry hentry hname => ?_⟩
    · rw [← List.reverse_reverse entries, heq]; simp
    · exact absurd (hafter entry (List.mem_reverse.mp hentry)) (by simp [hname])
  · rintro ⟨before, after, rfl, hafter⟩
    refine ⟨after.reverse, before.reverse, by simp, fun entry hentry => ?_⟩
    have hne := hafter entry (List.mem_reverse.mp hentry)
    simpa using fun h : name = entry.1 => hne h.symm

namespace IsLast

theorem unique (h : IsLast entries name a) (h' : IsLast entries name b) : a = b :=
  Option.some.inj ((lookup_reverse_eq_some_iff.mpr h).symm.trans (lookup_reverse_eq_some_iff.mpr h'))

theorem mem (h : IsLast entries name a) : (name, a) ∈ entries := by
  obtain ⟨before, after, rfl, -⟩ := h
  exact List.mem_append_right _ List.mem_cons_self

end IsLast

end

namespace OrderedMap
variable {α : Type}

theorem get?_foldl_insert (entries : List (String × α)) (m : OrderedMap α) (name : String) :
    (entries.foldl (fun m e => m.insert e.1 e.2) m).get? name =
      (entries.reverse.lookup name).or (m.get? name) := by
  induction entries generalizing m with
  | nil => rfl
  | cons entry rest ih =>
    rw [List.foldl_cons, ih, get?_insert, List.reverse_cons, List.lookup_append, Option.or_assoc]
    congr 1
    rw [lookup_cons_eq]
    split <;> rfl

/-- What is found in a map under a name is the last entry that was written under it. -/
theorem get?_ofList_eq_some_iff {entries : List (String × α)} {name : String} {a : α} :
    (ofList entries).get? name = some a ↔ IsLast entries name a := by
  have hnone : (empty : OrderedMap α).get? name = none := rfl
  rw [ofList, get?_foldl_insert, hnone, Option.or_none, lookup_reverse_eq_some_iff]

end OrderedMap

end Allowlist
