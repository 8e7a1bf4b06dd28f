import Allowlist.Predicate.Basic
import Allowlist.Store.Error

/-! # Stores

What list queries are run against: anything that selects and counts the rows of a table. The monad
is that of the store's own effects, such as breaking off for a store in memory. -/

namespace Allowlist

/-- Which rows of a table are asked for, and in which order. -/
structure SelectQuery where
  filter : Option Predicate
  orderBy : OrderBy
  limit : UInt64
  offset : UInt64
  deriving Repr

/-- A store of rows in tables. -/
structure DataStore (m : Type → Type) (Row : Type) where
  /-- The rows that a query asks for. -/
  select : (table : String) → SelectQuery → ExceptT StoreError m (List Row)
  /-- How many rows satisfy the condition, if the store knows. -/
  count : (table : String) → Option Predicate → ExceptT StoreError m (Option UInt64)

end Allowlist
