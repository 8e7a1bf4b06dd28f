import Allowlist.Proofs.Config.Clauses
import Allowlist.Proofs.Listing.Query

/-! # Queries keep within the declaration

However an endpoint is declared, if it comes to a configuration then no request leaves its bounds:
the page has at least one row and at most the maximum, it starts at an offset of 63 bits, and the
order is by a column of a declared sort key, in the direction that is asked for or the default one.
What is asked for is the last value of a parameter, what is declared the last clause of a key. -/

namespace Allowlist

namespace ListConfig
variable {c : ListConfig}

/-- What holds of a configuration and all of its queries, given the default order and the sort keys
that were declared. -/
structure KeepsBounds (c : ListConfig) (default : DefaultSort) (keys : List (String × Column)) :
    Prop where
  defaultLimit_pos : 1 ≤ c.defaultLimit.toNat
  defaultLimit_le : c.defaultLimit.toNat ≤ c.maxLimit.toNat
  default_declared : IsLast keys default.key c.defaultSortColumn
  limit_pos : ∀ params, 1 ≤ (c.query params).limit.toNat
  limit_le : ∀ params, (c.query params).limit.toNat ≤ c.maxLimit.toNat
  offset_le : ∀ params, ((c.query params).offset.toNat : Int) ≤ maxInt64
  /-- A declared sort key that is asked for decides the column. -/
  column_asked : ∀ (params : QueryPairs) (key : String) (column : Column),
    IsLast params.toList sortParam key → key ≠ "" → IsLast keys key column →
      (c.query params).orderBy.column = column
  /-- Without one the column is that of the default key. -/
  column_default : ∀ params : QueryPairs,
    (∀ key, IsLast params.toList sortParam key → key ≠ "" → ∀ column, ¬ IsLast keys key column) →
      (c.query params).orderBy.column = c.defaultSortColumn
  direction_asc : ∀ params : QueryPairs, IsLast params.toList orderParam "asc" →
    (c.query params).orderBy.direction = .asc
  direction_desc : ∀ params : QueryPairs, IsLast params.toList orderParam "desc" →
    (c.query params).orderBy.direction = .desc
  direction_default : ∀ params : QueryPairs, ¬ IsLast params.toList orderParam "asc" →
    ¬ IsLast params.toList orderParam "desc" →
      (c.query params).orderBy.direction = default.direction

/-- The sort keys that can be looked up are all that the bounds depend on. -/
theorem keepsBounds {keys : List (String × Column)}
    (hkeys : ∀ key column, c.sortable.get? key = some column ↔ IsLast keys key column) :
    c.KeepsBounds c.defaultSort keys where
  defaultLimit_pos := UInt64.lt_iff_toNat_lt.mp c.limit_pos
  defaultLimit_le := UInt64.le_iff_toNat_le.mp c.limit_le
  default_declared := (hkeys _ _).mp c.sort_declared
  limit_pos := c.limit_query_pos
  limit_le _ := pageLimit_le _
  offset_le _ := pageOffset_le _
  column_asked params key column hasked hne hdeclared := by
    show c.sortColumn (params.get? sortParam) = column
    rw [QueryPairs.get?_eq_some_iff.mpr hasked]
    exact sortColumn_eq hne ((hkeys key column).mpr hdeclared)
  column_default params h := by
    refine sortColumn_eq_default fun key hasked hne => ?_
    rw [Option.eq_none_iff_forall_ne_some]
    intro column hcolumn
    exact h key (QueryPairs.get?_eq_some_iff.mp hasked) hne column ((hkeys key column).mp hcolumn)
  direction_asc params h := by
    show c.sortDirection (params.get? orderParam) = .asc
    rw [QueryPairs.get?_eq_some_iff.mpr h]
    exact sortDirection_name .asc
  direction_desc params h := by
    show c.sortDirection (params.get? orderParam) = .desc
    rw [QueryPairs.get?_eq_some_iff.mpr h]
    exact sortDirection_name .desc
  direction_default params hasc hdesc := by
    refine sortDirection_eq_default fun d hd => ?_
    have hlast := QueryPairs.get?_eq_some_iff.mp hd
    cases d with
    | asc => exact hasc hlast
    | desc => exact hdesc hlast

theorem keepsBounds_of_build {key : String} {direction : SortDirection} {clauses : List Clause}
    (h : ((declare key direction).after clauses).build = .ok c) :
    c.KeepsBounds ⟨key, direction⟩ (sortKeys clauses) := by
  have hc := Declaration.resolves_of_build h
  have hsort : c.defaultSort = ⟨key, direction⟩ :=
    hc.defaultSort.trans (Declaration.defaultSort_after _ _)
  rw [← hsort]
  refine keepsBounds fun name column => ?_
  rw [hc.sortable]
  exact Declaration.sortable_declare_after clauses

/-- Every configuration, whether it is declared clause by clause or described, keeps the bounds of
its limits, of its sort keys and of its directions on every list of parameters. -/
theorem built_config_keeps_bounds :
    (∀ (key : String) (direction : SortDirection) (clauses : List Clause) (c : ListConfig),
      ((declare key direction).after clauses).build = .ok c →
        c.KeepsBounds ⟨key, direction⟩ (sortKeys clauses)) ∧
    (∀ (e : Endpoint) (c : ListConfig), e.build = .ok c →
        c.KeepsBounds e.defaultSort e.sortable.entries) := by
  refine ⟨fun key direction clauses c h => keepsBounds_of_build h, fun e c h => ?_⟩
  rw [Endpoint.build, e.declaration_eq_after] at h
  have hbounds := keepsBounds_of_build h
  rwa [e.sortKeys_clauses] at hbounds

/-- The largest maximum there is, after a low one; the sort key is declared twice. -/
def vastClauses : List Clause := [.maxLimit 3, .sortKey "age" "born_at", .sortKey "price" "price",
  .sortKey "age" "created_at", .maxLimit 18446744073709551615]

/-- A page below the least and a direction in the wrong case. -/
def strayParams : QueryPairs :=
  .ofList [("limit", "-99999999999999999999"), ("sort", "price"), ("order", "asc"), ("sort", "age"),
    ("order", "DESC"), ("offset", "99999999999999999999")]

/-- An endpoint that describes a low maximum alone. -/
def lowEndpoint : Endpoint :=
  { defaultSort := ⟨"id", .asc⟩, sortable := .ofList [("id", "item_id")], maxLimit := some 5 }

theorem stray_parameters_keep_bounds :
    (∃ c, ((declare "price" .asc).after vastClauses).build = .ok c ∧
      c.maxLimit = 18446744073709551615 ∧ 1 ≤ (c.query strayParams).limit.toNat ∧
      ((c.query strayParams).offset.toNat : Int) ≤ maxInt64 ∧
      (c.query strayParams).orderBy.column = "created_at" ∧
      (c.query strayParams).orderBy.direction = .asc) ∧
    ∃ c, lowEndpoint.build = .ok c ∧ c.defaultLimit.toNat ≤ 5 ∧
      (c.query strayParams).orderBy.column = "item_id" := by
  obtain ⟨hclauses, hdescribed⟩ := built_config_keeps_bounds
  have hlast {name value : String} (h : strayParams.get? name = some value) :
      IsLast strayParams.toList name value := QueryPairs.get?_eq_some_iff.mp h
  have horder (raw : String) (h : raw ≠ "DESC") : ¬ IsLast strayParams.toList orderParam raw :=
    fun hraw => h (hraw.unique (hlast rfl))
  refine ⟨?_, ?_⟩
  · obtain ⟨c, hc⟩ : ∃ c, ((declare "price" .asc).after vastClauses).build = .ok c := ⟨_, rfl⟩
    have hb := hclauses _ _ _ c hc
    have hage : IsLast (sortKeys vastClauses) "age" "created_at" :=
      ⟨[("age", "born_at"), ("price", "price")], [], rfl, by simp⟩
    exact ⟨c, hc, (Declaration.resolves_of_build hc).maxLimit, hb.limit_pos _, hb.offset_le _,
      hb.column_asked strayParams "age" _ (hlast rfl) (by decide) hage,
      hb.direction_default strayParams (horder _ (by decide)) (horder _ (by decide))⟩
  · obtain ⟨c, hc⟩ : ∃ c, lowEndpoint.build = .ok c := ⟨_, rfl⟩
    have hb := hdescribed _ c hc
    have hcolumn := hb.column_default strayParams fun key hasked _ column hdeclared => by
      have hkey : key = "age" := hasked.unique (hlast rfl)
      have hid := (Prod.mk.inj (List.mem_singleton.mp hdeclared.mem)).1
      exact absurd (hkey.symm.trans hid) (by decide)
    have hid : c.defaultSortColumn = "item_id" :=
      hb.default_declared.unique ⟨[], [], rfl, by simp⟩
    have hmax : c.maxLimit = 5 := (Declaration.resolves_of_build hc).maxLimit
    have hle := hb.defaultLimit_le
    rw [hmax] at hle
    exact ⟨c, hc, hle, hcolumn.trans hid⟩

end ListConfig

end Allowlist
