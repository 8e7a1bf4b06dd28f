import Allowlist.Proofs.Listing.Narrowing

/-! # Queries depend on what is declared alone

Of the parameters that can be filters a query takes those that are declared and have a value, in
their order; of the reserved ones it takes the last of each name, where an empty value is as good as
none. Two requests that agree in these have one query, whatever else they hold. Filters that are
declared under a reserved name are never asked. -/

namespace Allowlist

/-- Whether the last values of the reserved names are the same, up to values that are empty. -/
def QueryPairs.SameReserved (p q : QueryPairs) : Prop :=
  ∀ name ∈ reservedParams, ∀ raw, raw ≠ "" → (IsLast p.toList name raw ↔ IsLast q.toList name raw)

namespace QueryPairs
variable {p q : QueryPairs} {name : String}

theorem sameReserved_iff : p.SameReserved q ↔ ∀ name ∈ reservedParams,
    (p.get? name).filter (· ≠ "") = (q.get? name).filter (· ≠ "") := by
  refine forall₂_congr fun name _ => ?_
  rw [Option.ext_iff]
  simp only [Option.filter_eq_some_iff, decide_eq_true_eq, get?_eq_some_iff, and_congr_left_iff]

theorem get?_insert_earlier {before after : List (String × String)}
    (h : name ∈ after.map Prod.fst) (raw other : String) :
    (ofList (before ++ (name, raw) :: after)).get? other = (ofList (before ++ after)).get? other := by
  simp only [get?, ofList, List.reverse_append, List.reverse_cons, List.lookup_append,
    Option.or_assoc]
  by_cases hother : other = name
  · obtain ⟨pair, hpair, rfl⟩ := List.mem_map.mp h
    cases hfound : after.reverse.lookup other with
    | some value => rfl
    | none =>
      have hnot := List.lookup_eq_none_iff.mp hfound pair (List.mem_reverse.mpr hpair)
      exact absurd hother (by simpa using hnot)
  · rw [OrderedMap.lookup_cons_eq, if_neg hother]; rfl

end QueryPairs

namespace ListConfig
variable {c : ListConfig} {p q : QueryPairs}

/-- Whether a parameter can make a condition: it has a value and its name is that of a filter. -/
def mayFilter (c : ListConfig) (pair : String × String) : Bool :=
  !isReserved pair.1 && !pair.2.isEmpty &&
    (c.filters.contains pair.1 || c.customFilters.contains pair.1)

theorem condition?_of_not_mayFilter {pair : String × String} (h : c.mayFilter pair = false) :
    c.condition? pair.1 pair.2 = none := by
  unfold condition?
  cases hskip : isReserved pair.1 || pair.2.isEmpty with
  | true => rfl
  | false =>
    obtain ⟨hreserved, hempty⟩ := Bool.or_eq_false_iff.mp hskip
    simp only [mayFilter, hreserved, hempty, OrderedMap.contains, Bool.not_false, Bool.true_and,
      Bool.or_eq_false_iff, Option.isSome_eq_false_iff, Option.isNone_iff_eq_none] at h
    simp [h]

theorem conditions_congr (h : p.toList.filter c.mayFilter = q.toList.filter c.mayFilter) :
    c.conditions p = c.conditions q := by
  have key (params : QueryPairs) : c.conditions params =
      (params.toList.filter c.mayFilter).filterMap fun pair => c.condition? pair.1 pair.2 := by
    have hcondition : (fun pair => if c.mayFilter pair then c.condition? pair.1 pair.2 else none) =
        fun pair => c.condition? pair.1 pair.2 := by
      funext pair
      split
      · rfl
      · next hnot => exact (condition?_of_not_mayFilter (Bool.eq_false_iff.mpr hnot)).symm
    rw [List.filterMap_filter, hcondition]; rfl
  rw [key p, key q, h]

/-- Values that differ at most in being empty or absent are the same to whoever takes an empty one
for none. -/
theorem eq_of_filter_eq {α : Type} {f : Option String → α} (hempty : f (some "") = f none)
    {raw raw' : Option String} (h : raw.filter (· ≠ "") = raw'.filter (· ≠ "")) : f raw = f raw' := by
  have key (r : Option String) : f (r.filter (· ≠ "")) = f r := by
    cases r with
    | none => rfl
    | some s =>
      by_cases hs : s = ""
      · rw [hs]; exact hempty.symm
      · simp [Option.filter, hs]
  rw [← key raw, h, key]

/-! ### Two requests with one query -/

theorem query_congr (hfilters : p.toList.filter c.mayFilter = q.toList.filter c.mayFilter)
    (hreserved : p.SameReserved q) : c.query p = c.query q := by
  rw [QueryPairs.sameReserved_iff] at hreserved
  have hsort := hreserved sortParam (by decide)
  have horder := hreserved orderParam (by decide)
  have hlimit := hreserved limitParam (by decide)
  have hoffset := hreserved offsetParam (by decide)
  simp only [query, conditions_congr hfilters, ListQuery.mk.injEq, OrderBy.mk.injEq, true_and]
  -- each of the four readers takes an empty value for none, as its definition says
  exact ⟨⟨eq_of_filter_eq (f := c.sortColumn) rfl hsort,
    eq_of_filter_eq (f := c.sortDirection) rfl horder⟩,
    eq_of_filter_eq (f := c.pageLimit) rfl hlimit, eq_of_filter_eq (f := pageOffset) rfl hoffset⟩

theorem query_congr_of_filter
    (h : (p.toList.filter fun pair => isReserved pair.1 || c.mayFilter pair) =
      q.toList.filter fun pair => isReserved pair.1 || c.mayFilter pair) :
    c.query p = c.query q := by
  have hfilters (params : QueryPairs) : params.toList.filter c.mayFilter =
      (params.toList.filter fun pair => isReserved pair.1 || c.mayFilter pair).filter
        c.mayFilter := by
    rw [List.filter_filter]
    exact List.filter_congr fun pair _ => by cases c.mayFilter pair <;> simp
  have hreserved (params : QueryPairs) : params.reserved =
      (params.toList.filter fun pair => isReserved pair.1 || c.mayFilter pair).filter
        fun pair => isReserved pair.1 := by
    rw [List.filter_filter]
    exact List.filter_congr fun pair _ => by cases isReserved pair.1 <;> simp
  refine query_congr (by rw [hfilters p, hfilters q, h]) (QueryPairs.sameReserved_iff.mpr ?_)
  intro name hn
  have hname : isReserved name = true := List.contains_iff_mem.mpr hn
  rw [QueryPairs.get?_of_reserved hname, QueryPairs.get?_of_reserved hname, hreserved p,
    hreserved q, h]

theorem query_insert_earlier {before after : List (String × String)} {name : String}
    (hname : isReserved name = true) (h : name ∈ after.map Prod.fst) (raw : String) :
    c.query (.ofList (before ++ (name, raw) :: after)) = c.query (.ofList (before ++ after)) := by
  have hnot : c.mayFilter (name, raw) = false := by simp [mayFilter, hname]
  refine query_congr ?_ (QueryPairs.sameReserved_iff.mpr fun other _ => ?_)
  · simp only [QueryPairs.ofList, List.filter_append, List.filter_cons, hnot, Bool.false_eq_true,
      if_false]
  · rw [QueryPairs.get?_insert_earlier h]

theorem condition?_insert_reserved {name : String} (hname : isReserved name = true)
    (f : ColumnFilter) (g : CustomFilter) (other raw : String) :
    condition? { c with filters := c.filters.insert name f } other raw = c.condition? other raw ∧
      condition? { c with customFilters := c.customFilters.insert name g } other raw =
        c.condition? other raw := by
  by_cases hother : other = name
  · subst hother
    simp only [condition?_of_reserved hname, and_self]
  · simp only [condition?, OrderedMap.get?_insert, if_neg hother, and_self]

theorem query_insert_reserved {name : String} (hname : isReserved name = true)
    (f : ColumnFilter) (g : CustomFilter) (params : QueryPairs) :
    query { c with filters := c.filters.insert name f } params = c.query params ∧
      query { c with customFilters := c.customFilters.insert name g } params = c.query params := by
  have hcondition := condition?_insert_reserved (c := c) hname f g
  constructor
  · simp only [query, conditions, (hcondition _ _).1]; rfl
  · simp only [query, conditions, (hcondition _ _).2]; rfl

/-- A query is decided by the parameters that are declared filters with a value, in their order, and
by the last value of each reserved name. So parameters that are neither, and reserved ones that are
given again, can come and go or move anywhere; and nothing that is declared under a reserved name
has a say. -/
theorem query_depends_on_declared (c : ListConfig) :
    (∀ p q : QueryPairs, p.toList.filter c.mayFilter = q.toList.filter c.mayFilter →
      p.SameReserved q → c.query p = c.query q) ∧
    (∀ p q : QueryPairs, (p.toList.filter fun pair => isReserved pair.1 || c.mayFilter pair) =
      (q.toList.filter fun pair => isReserved pair.1 || c.mayFilter pair) →
        c.query p = c.query q) ∧
    (∀ (before after : List (String × String)) (name raw : String), isReserved name = true →
      name ∈ after.map Prod.fst →
        c.query (.ofList (before ++ (name, raw) :: after)) =
          c.query (.ofList (before ++ after))) ∧
    (∀ (name : String) (f : ColumnFilter) (g : CustomFilter) (params : QueryPairs),
      isReserved name = true →
        query { c with filters := c.filters.insert name f } params = c.query params ∧
          query { c with customFilters := c.customFilters.insert name g } params =
            c.query params) :=
  ⟨fun _ _ => query_congr, fun _ _ => query_congr_of_filter,
    fun _ _ _ raw hname h => query_insert_earlier hname h raw,
    fun _ f g params hname => query_insert_reserved hname f g params⟩

/-- Tickets that are open, asked for with two reserved names left empty. -/
def plainParams : QueryPairs := .ofList [("state", "open"), ("limit", "5"), ("sort", "")]

/-- The same with an earlier limit, names that are not declared and values that are missing. -/
def noisyParams : QueryPairs := .ofList [("limit", "9"), ("owner", "8"), ("foreign", ""),
  ("limit", "5"), ("State", "shut"), ("state", "open"), ("order", "")]

theorem noise_changes_no_query :
    noisyParams.toList.filter ticketConfig.mayFilter =
        plainParams.toList.filter ticketConfig.mayFilter ∧
      noisyParams.SameReserved plainParams ∧
      ticketConfig.query noisyParams = ticketConfig.query plainParams ∧
      ticketConfig.query (.ofList [("offset", "7"), ("state", "open"), ("offset", "x")]) =
        ticketConfig.query (.ofList [("state", "open"), ("offset", "x")]) ∧
      query { ticketConfig with filters := ticketConfig.filters.insert "limit" { column := "id" } }
        plainParams = ticketConfig.query plainParams := by
  have hfilters : noisyParams.toList.filter ticketConfig.mayFilter =
      plainParams.toList.filter ticketConfig.mayFilter := by rfl
  have hreserved : noisyParams.SameReserved plainParams :=
    QueryPairs.sameReserved_iff.mpr (by decide)
  obtain ⟨hsame, -, hearlier, hdeclared⟩ := query_depends_on_declared ticketConfig
  exact ⟨hfilters, hreserved, hsame _ _ hfilters hreserved,
    hearlier [] [("state", "open"), ("offset", "x")] "offset" "7" (by decide) (by decide),
    (hdeclared "limit" { column := "id" } (fun _ => none) plainParams (by decide)).1⟩

end ListConfig

end Allowlist
