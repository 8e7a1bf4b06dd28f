import Allowlist.Value.Basic

/-! # Conditions

The language of conditions on a row, which filters amount to, and the orderings of rows.
Conditions combine so that an absent one restricts nothing: no condition at all stays absent, and a
single one stays as it is. -/

namespace Allowlist

abbrev Column := String

/-- The comparisons of a column with a value. -/
inductive Comparison
  | eq
  | gt
  | gte
  | lt
  | lte
  deriving DecidableEq, Repr

/-- Whether an order of column and operand satisfies the comparison. -/
def Comparison.accepts : Comparison → Ordering → Bool
  | eq, o => o == .eq
  | gt, o => o == .gt
  | gte, o => o != .lt
  | lt, o => o == .lt
  | lte, o => o != .gt

/-- A condition on a row. -/
inductive Predicate
  | compare (comparison : Comparison) (column : Column) (value : FieldValue)
  | like (column : Column) (pattern : String)
  | isIn (column : Column) (values : List FieldValue)
  | all (conditions : List Predicate)
  | any (conditions : List Predicate)
  | not (condition : Predicate)
  deriving Repr

namespace Predicate

/-- All of the conditions, if there are any. -/
def and? : List Predicate → Option Predicate
  | [] => none
  | [p] => some p
  | ps => some (all ps)

/-- Any of the conditions, if there are some. -/
def or? : List Predicate → Option Predicate
  | [] => none
  | [p] => some p
  | ps => some (any ps)

def both? : Option Predicate → Option Predicate → Option Predicate
  | some p, some q => some (all [p, q])
  | some p, none => some p
  | none, some q => some q
  | none, none => none

def sameValues : List FieldValue → List FieldValue → Bool
  | [], [] => true
  | v :: vs, w :: ws => v.same w && sameValues vs ws
  | _, _ => false

mutual

/-- Whether two conditions are built alike from operands that agree. -/
def same : Predicate → Predicate → Bool
  | compare c column v, compare d column' w => c == d && column == column' && v.same w
  | like column p, like column' q => column == column' && p == q
  | isIn column vs, isIn column' ws => column == column' && sameValues vs ws
  | all ps, all qs => sameAll ps qs
  | any ps, any qs => sameAll ps qs
  | not p, not q => same p q
  | _, _ => false

def sameAll : List Predicate → List Predicate → Bool
  | [], [] => true
  | p :: ps, q :: qs => same p q && sameAll ps qs
  | _, _ => false

end

end Predicate

/-- The two ways to run through an order. -/
inductive SortDirection
  | asc
  | desc
  deriving DecidableEq, Repr

namespace SortDirection

def name : SortDirection → String
  | asc => "asc"
  | desc => "desc"

def names : List (String × SortDirection) := [("asc", asc), ("desc", desc)]

/-- The direction of a name, in exactly this spelling. -/
def parse? (s : String) : Option SortDirection := names.lookup s

end SortDirection

/-- An ordering of rows by one column. -/
structure OrderBy where
  column : Column
  direction : SortDirection
  deriving DecidableEq, Repr

end Allowlist
