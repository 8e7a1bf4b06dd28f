/-! # Maps that keep their order

A map from names to values that lists its entries in the order in which the names first came.
Inserting under a name that is present replaces the value and keeps the place. No name occurs
twice, which the type carries as a proof. -/

namespace Allowlist

/-- Entries of distinct names in order. -/
structure OrderedMap (α : Type) where
  entries : List (String × α)
  nodup : (entries.map Prod.fst).Nodup

namespace OrderedMap
variable {α β : Type}

def empty : OrderedMap α := ⟨[], .nil⟩

instance : Inhabited (OrderedMap α) := ⟨empty⟩

instance : EmptyCollection (OrderedMap α) := ⟨empty⟩

instance [DecidableEq α] : DecidableEq (OrderedMap α) := fun m n =>
  decidable_of_iff (m.entries = n.entries) ⟨fun h => by cases m; cases n; simpa using h,
    fun h => h ▸ rfl⟩

def insertEntry (name : String) (value : α) : List (String × α) → List (String × α)
  | [] => [(name, value)]
  | entry :: rest =>
    if entry.1 = name then (name, value) :: rest else entry :: insertEntry name value rest

theorem keys_insertEntry (name : String) (value : α) (entries : List (String × α)) :
    (insertEntry name value entries).map Prod.fst =
      if name ∈ entries.map Prod.fst then entries.map Prod.fst
      else entries.map Prod.fst ++ [name] := by
  induction entries with
  | nil => simp [insertEntry]
  | cons entry rest ih =>
    by_cases h : entry.1 = name
    · simp [insertEntry, h]
    · have h' : ¬name = entry.1 := fun e => h e.symm
      simp only [insertEntry, h, if_false, List.map_cons, ih, List.mem_cons, h', false_or]
      split <;> rfl

/-- Writes a value under a name: in place if the name is present, else at the end. -/
def insert (m : OrderedMap α) (name : String) (value : α) : OrderedMap α where
  entries := insertEntry name value m.entries
  nodup := by
    rw [keys_insertEntry]
    split
    · exact m.nodup
    · next h => exact List.nodup_append.mpr ⟨m.nodup, by simp, by
        intro a ha b hb e
        simp only [List.mem_singleton] at hb
        exact h (hb ▸ e ▸ ha)⟩

def get? (m : OrderedMap α) (name : String) : Option α := m.entries.lookup name

def keys (m : OrderedMap α) : List String := m.entries.map Prod.fst

def contains (m : OrderedMap α) (name : String) : Bool := (m.get? name).isSome

/-- The map that results from writing the entries one after another. -/
def ofList (entries : List (String × α)) : OrderedMap α :=
  entries.foldl (fun m e => m.insert e.1 e.2) empty

def insertAll (m n : OrderedMap α) : OrderedMap α :=
  n.entries.foldl (fun m e => m.insert e.1 e.2) m

/-- Puts an entry among entries in the order of their names; a name that is present gets the new
value. -/
def insertSorted (name : String) (value : α) : List (String × α) → List (String × α)
  | [] => [(name, value)]
  | entry :: rest =>
    match compare name entry.1 with
    | .lt => (name, value) :: entry :: rest
    | .eq => (name, value) :: rest
    | .gt => entry :: insertSorted name value rest

end OrderedMap

end Allowlist
