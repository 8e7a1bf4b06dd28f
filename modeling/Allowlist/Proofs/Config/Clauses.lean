import Allowlist.Config.Endpoint
import Allowlist.Proofs.Entries

/-! # Declaring an endpoint clause by clause

A declaration is made of clauses, one after another in any order. Each clause acts on one part of
it, so a part is what the clauses of its own kind make of it: of limits the last one counts, and the
sort keys that can be looked up in the end are those of the sort clauses, the last one for each key.
An endpoint that is described comes to the clauses that its description lists, and a configuration
has what its declaration holds, with the defaults put in. -/

namespace Allowlist

namespace ListConfig

/-- One thing that is said of an endpoint. -/
inductive Clause
  | filter (name : String) (filter : ColumnFilter)
  | customFilter (name : String) (filter : CustomFilter)
  | sortKey (key : String) (column : Column)
  | defaultLimit (limit : UInt64)
  | maxLimit (limit : UInt64)

namespace Clause

def apply (d : Declaration) : Clause → Declaration
  | filter name f => d.filter name f
  | customFilter name f => d.customFilter name f
  | sortKey key column => d.sortKey key column
  | defaultLimit limit => d.setDefaultLimit limit
  | maxLimit limit => d.setMaxLimit limit

def filter? : Clause → Option (String × ColumnFilter)
  | filter name f => some (name, f)
  | _ => none

def sortKey? : Clause → Option (String × Column)
  | sortKey key column => some (key, column)
  | _ => none

end Clause

/-- The sort keys of the clauses, in order and with repetitions. -/
def sortKeys (clauses : List Clause) : List (String × Column) := clauses.filterMap Clause.sortKey?

namespace Declaration

def after (d : Declaration) (clauses : List Clause) : Declaration := clauses.foldl Clause.apply d

variable (d : Declaration) (clauses : List Clause)

/-- A part on which only clauses of one kind act is written by these alone. -/
theorem part_after {β γ : Type} {part : Declaration → β} {said? : Clause → Option γ}
    {write : β → γ → β}
    (h : ∀ d clause, part (clause.apply d) = (said? clause).elim (part d) (write (part d))) :
    part (d.after clauses) = (clauses.filterMap said?).foldl write (part d) := by
  induction clauses generalizing d with
  | nil => rfl
  | cons clause rest ih =>
    rw [after, List.foldl_cons, ← after, ih, h, List.filterMap_cons]
    cases said? clause <;> rfl

theorem defaultSort_after : (d.after clauses).defaultSort = d.defaultSort := by
  induction clauses generalizing d with
  | nil => rfl
  | cons clause rest ih => rw [after, List.foldl_cons, ← after, ih]; cases clause <;> rfl

theorem sortable_after : (d.after clauses).sortable =
    (sortKeys clauses).foldl (fun m e => m.insert e.1 e.2) d.sortable :=
  d.part_after clauses fun _ clause => by cases clause <;> rfl

theorem sortable_declare_after {key : String} {direction : SortDirection} {name : String}
    {column : Column} : ((declare key direction).after clauses).sortable.get? name = some column ↔
      IsLast (sortKeys clauses) name column := by
  rw [sortable_after]
  exact OrderedMap.get?_ofList_eq_some_iff

/-- The configuration holds what is declared, and where a limit is not, its default. -/
structure Resolves (d : Declaration) (c : ListConfig) : Prop where
  filters : c.filters = d.filters
  customFilters : c.customFilters = d.customFilters
  sortable : c.sortable = d.sortable
  defaultSort : c.defaultSort = d.defaultSort
  defaultLimit : c.defaultLimit = d.resolvedDefaultLimit
  maxLimit : c.maxLimit = d.resolvedMaxLimit

variable {d} {c : ListConfig}

theorem resolves_of_build (h : d.build = .ok c) : d.Resolves c := by
  unfold build at h
  simp only at h
  split at h
  · cases h
  · split at h
    · split at h
      · cases h; constructor <;> rfl
      · cases h
    · cases h

end Declaration

end ListConfig

namespace Endpoint

open ListConfig

def clauses (e : Endpoint) : List Clause :=
  e.filters.entries.map (fun entry => .filter entry.1 entry.2.toFilter) ++
    e.sortable.entries.map (fun entry => .sortKey entry.1 entry.2) ++
    e.defaultLimit.toList.map .defaultLimit ++ e.maxLimit.toList.map .maxLimit

theorem declaration_eq_after (e : Endpoint) :
    e.declaration = (declare e.defaultSort.key e.defaultSort.direction).after e.clauses := by
  simp only [declaration, Declaration.after, clauses, List.foldl_append, List.foldl_map]
  cases e.defaultLimit <;> cases e.maxLimit <;> rfl

theorem sortKeys_clauses (e : Endpoint) : sortKeys e.clauses = e.sortable.entries := by
  have hkeys : (e.sortable.entries.map fun entry => Clause.sortKey entry.1 entry.2).filterMap
      Clause.sortKey? = e.sortable.entries := by
    rw [List.filterMap_map]
    exact List.filterMap_some
  have hfilters : (e.filters.entries.map fun entry => Clause.filter entry.1
      entry.2.toFilter).filterMap Clause.sortKey? = [] := by
    rw [List.filterMap_map]
    exact List.filterMap_eq_nil_iff.mpr fun _ _ => rfl
  simp only [sortKeys, clauses, List.filterMap_append, hkeys, hfilters]
  cases e.defaultLimit <;> cases e.maxLimit <;> simp [Clause.sortKey?]

end Endpoint

end Allowlist
