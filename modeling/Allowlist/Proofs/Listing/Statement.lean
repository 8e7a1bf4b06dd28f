import Allowlist.Listing.Run
import Allowlist.Proofs.OrderedMap
import Allowlist.Proofs.Sql.Vocabulary

/-! # Statements of queries

A query takes its columns from the configuration and the base condition and nothing but values from
its parameters. So if the declared names are valid every request has its two statements, and these
name nothing that is not declared. -/

namespace Allowlist

open Sql

theorem FilterOp.eq_of_mem_columns_apply {op : FilterOp} {column other : Column} {operand : Operand}
    (h : other ∈ (op.apply column operand).columns) : other = column := by
  have hin : ∀ vs : List FieldValue, other ∈ (Predicate.isIn column vs).columns → other = column := by
    intro vs hvs
    cases vs with
    | nil => simp [Predicate.columns] at hvs
    | cons v vs => simpa [Predicate.columns] using hvs
  cases op with
  | isIn => exact hin _ h
  | contains =>
    simp only [apply] at h
    split at h <;> simpa [Predicate.columns] using h
  | _ => simpa [apply, Predicate.columns] using h

namespace ListConfig
variable {table : String} {c : ListConfig} {base : Option Predicate}

/-- The names of an endpoint: its table and the columns of its filters, of its sort keys and of its
base condition. -/
inductive Declares (table : String) (c : ListConfig) (base : Option Predicate) : String → Prop
  | table : Declares table c base table
  | filter {name : String} {f : ColumnFilter} (declared : c.filters.get? name = some f) :
      Declares table c base f.column
  | customFilter {name raw : String} {f : CustomFilter} {p : Predicate} {column : Column}
      (declared : c.customFilters.get? name = some f) (made : f raw = some p)
      (named : column ∈ p.columns) : Declares table c base column
  | sortKey {key : String} {column : Column} (declared : c.sortable.get? key = some column) :
      Declares table c base column
  | base {p : Predicate} {column : Column} (given : base = some p) (named : column ∈ p.columns) :
      Declares table c base column

theorem declares_of_condition? {name raw : String} {p : Predicate} {column : Column}
    (h : c.condition? name raw = some p) (hc : column ∈ p.columns) : c.Declares table base column := by
  unfold condition? at h
  split at h
  · cases h
  · split at h
    · next f hf =>
      obtain rfl : f.condition raw = p := Option.some.inj h
      rw [FilterOp.eq_of_mem_columns_apply hc]
      exact .filter hf
    · obtain ⟨f, hf, hp⟩ := Option.bind_eq_some_iff.mp h
      exact .customFilter hf hp hc

theorem declares_of_filterWith {params : QueryPairs} {p : Predicate} {column : Column}
    (h : (c.query params).filterWith base = some p) (hc : column ∈ p.columns) :
    c.Declares table base column := by
  rcases Predicate.mem_columns_both? h hc with ⟨q, hq, hcq⟩ | ⟨q, hq, hcq⟩
  · exact .base hq hcq
  · obtain ⟨r, hr, hcr⟩ := Predicate.mem_columns_and? hq hcq
    obtain ⟨⟨name, raw⟩, -, hmade⟩ := List.mem_filterMap.mp hr
    exact declares_of_condition? hmade hcr

theorem declares_sortColumn (key : Option String) : c.Declares table base (c.sortColumn key) := by
  have hdefault : c.Declares table base c.defaultSortColumn := .sortKey c.sort_declared
  unfold sortColumn
  split
  · next key =>
    split
    · exact hdefault
    · cases h : c.sortable.get? key with
      | none => exact hdefault
      | some column => exact .sortKey h
  · exact hdefault

/-- Whatever the parameters are, a query within a base condition can be written as a selection and
as a count if all declared names are valid. Both take their rows from the table and have the same
restriction, if any, which is made of the fixed words, the declared names, placeholders and the
numbers 0 and 1; the selection has the order by a declared column and the page behind it. -/
theorem query_statements (hvalid : ∀ name, c.Declares table base name → isValidName name = true)
    (params : QueryPairs) :
    let q := c.query params
    c.Declares table base q.orderBy.column ∧
    ∃ restriction : Statement, restriction.IsFrom (c.Declares table base) ∧
      restriction.tokens.head? = (q.filterWith base).map (fun _ => .word .where) ∧
      (∃ s front : Statement, Statement.select table (q.selection base) = .ok s ∧
        front.tokens = [.word .select, .word .all, .word .from, .name (nameParts table)] ++
          restriction.tokens ++ [.word .order, .word .by, .name (nameParts q.orderBy.column),
            .word (Statement.directionWord q.orderBy.direction)] ∧
        front.IsFrom (c.Declares table base) ∧
        s.tokens = front.tokens ++ [.word .limit, .number q.limit.toNat, .word .offset,
          .number q.offset.toNat] ∧ s.IsItsTokens) ∧
      ∃ s, Statement.count table (q.filterWith base) = .ok s ∧
        s.tokens = [.word .select, .word .countAll, .word .from, .name (nameParts table)] ++
          restriction.tokens ∧
        s.IsFrom (c.Declares table base) ∧ s.IsItsTokens := by
  intro q
  have hcolumn : c.Declares table base q.orderBy.column := declares_sortColumn _
  obtain ⟨r, hr, hfrom⟩ := Statement.exists_restriction hvalid
    fun p (h : q.filterWith base = some p) _ hc => declares_of_filterWith h hc
  exact ⟨hcolumn, r, hfrom, Statement.head?_restriction hr,
    Statement.exists_select hvalid .table hcolumn hr hfrom,
    Statement.exists_count hvalid .table hr hfrom⟩

/-- Goods of a shop, searched by a filter of its own, newest first. -/
def goodsConfig : ListConfig where
  filters := .ofList [("kind", { column := "goods.kind", op := .isIn })]
  customFilters := .ofList [("q", fun raw => some (.any [.like "title" ("%" ++ raw ++ "%"),
    .not (.compare .eq "maker" (.string raw))]))]
  sortable := .ofList [("age", "listed_at"), ("price", "price")]
  defaultSort := ⟨"age", .desc⟩
  defaultSortColumn := "listed_at"
  defaultLimit := 25
  maxLimit := 50
  sort_declared := by rfl
  limit_pos := by decide
  limit_le := by decide

/-- Parameters that try to close what they stand in. -/
def hostileParams : QueryPairs := .ofList [("kind", "a') OR 1=1 --,\"b\""), ("sort", "price\" DESC; --"),
  ("q", "$9 \\'; DROP TABLE goods"), ("order", "asc, 1"), ("limit", "9; SELECT"), ("x\"", "1 = 1")]

theorem declares_goodsConfig {name : String}
    (h : goodsConfig.Declares "goods" (some (.compare .eq "shop" (.integer 3))) name) :
    name ∈ ["goods", "goods.kind", "title", "maker", "listed_at", "price", "shop"] := by
  cases h with
  | table => simp
  | filter declared =>
    obtain ⟨-, rfl⟩ := Prod.mk.inj (List.mem_singleton.mp (OrderedMap.mem_of_get? declared))
    simp
  | customFilter declared made named =>
    obtain ⟨-, rfl⟩ := Prod.mk.inj (List.mem_singleton.mp (OrderedMap.mem_of_get? declared))
    obtain rfl := Option.some.inj made
    rcases List.mem_cons.mp named with rfl | named
    · simp
    · obtain rfl := List.mem_singleton.mp named
      simp
  | sortKey declared =>
    rcases List.mem_cons.mp (OrderedMap.mem_of_get? declared) with h | h
    · obtain ⟨-, rfl⟩ := Prod.mk.inj h
      simp
    · obtain ⟨-, rfl⟩ := Prod.mk.inj (List.mem_singleton.mp h)
      simp
  | base given named =>
    obtain rfl := Option.some.inj given
    obtain rfl := List.mem_singleton.mp named
    simp

theorem hostile_parameters_stay_values :
    let base : Option Predicate := some (.compare .eq "shop" (.integer 3))
    (∀ name, goodsConfig.Declares "goods" base name → isValidName name = true) ∧
      ∃ s, Statement.select "goods" ((goodsConfig.query hostileParams).selection base) = .ok s ∧
        s.IsItsTokens ∧ s.text = "SELECT * FROM \"goods\" WHERE (\"shop\" = $1 AND " ++
          "(\"goods\".\"kind\" IN ($2, $3) AND (\"title\" LIKE $4 OR NOT (\"maker\" = $5)))) " ++
          "ORDER BY \"listed_at\" DESC LIMIT 9 OFFSET 0" := by
  intro base
  have hvalid : ∀ name, goodsConfig.Declares "goods" base name → isValidName name = true := by
    intro name h
    have hmem := declares_goodsConfig h
    simp only [List.mem_cons, List.not_mem_nil, or_false] at hmem
    rcases hmem with rfl | rfl | rfl | rfl | rfl | rfl | rfl <;> decide +kernel
  obtain ⟨-, -, -, -, ⟨s, -, hs, -, -, -, htokens⟩, -⟩ := query_statements hvalid hostileParams
  refine ⟨hvalid, s, hs, htokens, ?_⟩
  have hsome : (Statement.select "goods" ((goodsConfig.query hostileParams).selection base)).toOption.map
      Statement.text = some s.text := by rw [hs]; rfl
  exact (Option.some.inj (hsome.symm.trans (by decide +kernel)))

end ListConfig

end Allowlist
