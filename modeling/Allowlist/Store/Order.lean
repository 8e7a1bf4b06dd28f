import Allowlist.Predicate.Eval

/-! # The order of records

Records are ordered by one column. Values that do not compare go by their kind, in a fixed order of
kinds, and missing values and nulls come after all others; descending turns all of it around. -/

namespace Allowlist

namespace FieldValue

/-- The place of a kind among kinds; kinds that compare share one. -/
def kindRank : FieldValue → Nat
  | boolean _ => 0
  | integer _ => 1
  | float _ => 1
  | uuid _ => 2
  | string _ => 2
  | dateTime _ => 3
  | null => 4

/-- The order of two values, by kind where they do not compare. -/
def order (a b : FieldValue) : Ordering :=
  (a.compare? b).getD (compare a.kindRank b.kindRank)

end FieldValue

namespace OrderBy

/-- The value of the ordering's column, unless it is missing or null. -/
def key? (o : OrderBy) (r : Record) : Option FieldValue :=
  (r.get? o.column).filter (!·.isNull)

/-- The order of two keys; a missing one comes last. -/
def compareKeys : Option FieldValue → Option FieldValue → Ordering
  | none, none => .eq
  | none, some _ => .gt
  | some _, none => .lt
  | some a, some b => a.order b

def compareRecords (o : OrderBy) (a b : Record) : Ordering :=
  let ordering := compareKeys (o.key? a) (o.key? b)
  match o.direction with
  | .asc => ordering
  | .desc => ordering.swap

end OrderBy

end Allowlist
