import Allowlist.OrderedMap

/-! # Look-ups in maps that keep their order

What is looked up is an entry, and writing under a name changes what is found under that name
alone. Names in order and what is found under each are all there is to a map. -/

namespace Allowlist.OrderedMap

variable {α : Type} {m n : OrderedMap α} {name : String} {a : α}

theorem mem_of_get? (h : m.get? name = some a) : (name, a) ∈ m.entries := by
  obtain ⟨before, after, heq, -⟩ := List.lookup_eq_some_iff.mp h
  rw [heq]
  exact List.mem_append_right _ List.mem_cons_self

theorem lookup_cons_eq (other name : String) (a : α) (entries : List (String × α)) :
    ((name, a) :: entries).lookup other = if other = name then some a else entries.lookup other := by
  by_cases h : other = name
  · simp [h]
  · have hb : (other == name) = false := beq_false_of_ne h
    simp only [List.lookup_cons, hb, h, if_false]

theorem lookup_map_snd {β : Type} (f : α → β) (entries : List (String × α)) (name : String) :
    (entries.map fun e => (e.1, f e.2)).lookup name = (entries.lookup name).map f := by
  induction entries with
  | nil => rfl
  | cons e rest ih =>
    rw [List.map_cons, lookup_cons_eq, ih, lookup_cons_eq]
    split <;> rfl

theorem lookup_eq_head? (entries : List (String × α)) (name : String) :
    entries.lookup name = ((entries.filter (·.1 = name)).map Prod.snd).head? := by
  induction entries with
  | nil => rfl
  | cons e rest ih =>
    rw [lookup_cons_eq, ih]
    by_cases hname : name = e.1
    · rw [if_pos hname, List.filter_cons_of_pos (by simpa using hname.symm)]; rfl
    · rw [if_neg hname, List.filter_cons_of_neg (by simpa using Ne.symm hname)]

theorem lookup_insertEntry (other name : String) (a : α) (entries : List (String × α)) :
    (insertEntry name a entries).lookup other =
      if other = name then some a else entries.lookup other := by
  induction entries with
  | nil => exact lookup_cons_eq other name a []
  | cons entry rest ih =>
    obtain ⟨key, value⟩ := entry
    unfold insertEntry
    by_cases hkey : key = name
    · subst hkey
      simp only [if_true, lookup_cons_eq]
      split <;> rfl
    · simp only [hkey, if_false, lookup_cons_eq, ih]
      split
      · next h => rw [if_neg (h ▸ hkey)]
      · rfl

theorem get?_insert (m : OrderedMap α) (name : String) (a : α) (other : String) :
    (m.insert name a).get? other = if other = name then some a else m.get? other :=
  lookup_insertEntry other name a m.entries

theorem keys_insert (m : OrderedMap α) (name : String) (a : α) :
    (m.insert name a).keys = if name ∈ m.keys then m.keys else m.keys ++ [name] :=
  keys_insertEntry name a m.entries

theorem lookup_eq_none_iff {entries : List (String × α)} :
    entries.lookup name = none ↔ name ∉ entries.map Prod.fst := by
  rw [List.lookup_eq_none_iff]
  simp only [bne_iff_ne, List.mem_map, not_exists, not_and]
  constructor
  · intro h entry hentry hname
    exact h entry hentry hname.symm
  · intro h entry hentry hname
    exact h entry hentry hname.symm

theorem get?_eq_none_iff : m.get? name = none ↔ name ∉ m.keys :=
  lookup_eq_none_iff

theorem eq_of_lookup {xs ys : List (String × α)} (hnodup : (xs.map Prod.fst).Nodup)
    (hkeys : xs.map Prod.fst = ys.map Prod.fst) (hlookup : ∀ name, xs.lookup name = ys.lookup name) :
    xs = ys := by
  induction xs generalizing ys with
  | nil => exact (List.map_eq_nil_iff.mp hkeys.symm).symm
  | cons x xs ih =>
    obtain _ | ⟨y, ys⟩ := ys
    · cases hkeys
    obtain ⟨key, a⟩ := x
    obtain ⟨key', b⟩ := y
    obtain ⟨rfl, hrest⟩ := List.cons.inj hkeys
    obtain ⟨hfresh, hnodup⟩ := List.nodup_cons.mp hnodup
    have hhead := hlookup key
    simp only [lookup_cons_eq, if_true, Option.some_inj] at hhead
    have htail (name : String) : xs.lookup name = ys.lookup name := by
      by_cases hname : name = key
      · have hys : name ∉ ys.map Prod.fst := by rw [hname, ← hrest]; exact hfresh
        rw [lookup_eq_none_iff.mpr (hname ▸ hfresh), lookup_eq_none_iff.mpr hys]
      · have h := hlookup name
        simpa [lookup_cons_eq, hname] using h
    rw [hhead, ih hnodup hrest htail]

theorem ext_of_get? (hkeys : m.keys = n.keys) (hget : ∀ name, m.get? name = n.get? name) : m = n := by
  obtain ⟨xs, hxs⟩ := m
  obtain ⟨ys, hys⟩ := n
  obtain rfl : xs = ys := eq_of_lookup hxs hkeys hget
  rfl

end Allowlist.OrderedMap
