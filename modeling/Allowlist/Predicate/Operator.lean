import Allowlist.Config.Error
import Allowlist.Predicate.Basic

/-! # Filter operators

What a column filter does with the value of its parameter. `contains` wraps the text of the value
in wildcards without escaping those it holds; `in` takes a list. A null operand leaves a condition
that no row satisfies. -/

namespace Allowlist

/-- The comparison that a column filter makes. -/
inductive FilterOp
  | eq
  | contains
  | gt
  | gte
  | lt
  | lte
  | isIn
  deriving DecidableEq, Repr

/-- The operand of a filter: one value or several. -/
inductive Operand
  | single (value : FieldValue)
  | many (values : List FieldValue)
  deriving Repr

namespace Operand

/-- The operand as one value: the first of several, or null. -/
def toSingle : Operand → FieldValue
  | single v => v
  | many [] => .null
  | many (v :: _) => v

def toMany : Operand → List FieldValue
  | single v => [v]
  | many vs => vs

end Operand

namespace FilterOp

/-- The condition on a column that a filter with this operator makes. -/
def apply (op : FilterOp) (column : Column) (operand : Operand) : Predicate :=
  match op with
  | eq => .compare .eq column operand.toSingle
  | gt => .compare .gt column operand.toSingle
  | gte => .compare .gte column operand.toSingle
  | lt => .compare .lt column operand.toSingle
  | lte => .compare .lte column operand.toSingle
  | contains =>
    match operand.toSingle.text? with
    | some needle => .like column ("%" ++ needle ++ "%")
    | none => .compare .eq column .null
  | isIn => .isIn column operand.toMany

/-- Whether the raw text is split at commas before it is coerced. -/
def takesList : FilterOp → Bool
  | isIn => true
  | _ => false

def name : FilterOp → String
  | eq => "eq"
  | contains => "contains"
  | gt => "gt"
  | gte => "gte"
  | lt => "lt"
  | lte => "lte"
  | isIn => "in"

def all : List FilterOp := [eq, contains, gt, gte, lt, lte, isIn]

def names : List (String × FilterOp) := all.map fun op => (op.name, op)

/-- The operator of a name, in exactly this spelling. -/
def parse (s : String) : Except ConfigError FilterOp :=
  match names.lookup s with
  | some op => .ok op
  | none => .error (.invalidValue "op" s ("expected one of " ++ ", ".intercalate (all.map name)))

end FilterOp

end Allowlist
