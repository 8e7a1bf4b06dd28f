import Allowlist.OrderedMap
import Allowlist.Predicate.Basic
import Allowlist.Predicate.Like

/-! # Conditions on records

Whether a record satisfies a condition. A comparison with null, with a column that the record lacks
or between kinds that do not compare is not satisfied, and `not` is satisfied exactly when its
condition is not. -/

namespace Allowlist

/-- A row: the values of its columns, in order. -/
abbrev Record := OrderedMap FieldValue

namespace Predicate

def compareColumn? (record : Record) (column : Column) (value : FieldValue) : Option Ordering :=
  (record.get? column).bind (·.compare? value)

def likeColumn (record : Record) (column : Column) (pattern : String) : Bool :=
  match (record.get? column).bind FieldValue.text? with
  | some text => Like.isMatch text.toList pattern.toList
  | none => false

def inColumn (record : Record) (column : Column) (values : List FieldValue) : Bool :=
  match record.get? column with
  | some stored => values.any stored.sqlEq
  | none => false

mutual

def holds (record : Record) : Predicate → Bool
  | compare c column value => (compareColumn? record column value).any c.accepts
  | like column pattern => likeColumn record column pattern
  | isIn column values => inColumn record column values
  | all conditions => allHold record conditions
  | any conditions => anyHolds record conditions
  | not condition => !holds record condition

def allHold (record : Record) : List Predicate → Bool
  | [] => true
  | p :: rest => holds record p && allHold record rest

def anyHolds (record : Record) : List Predicate → Bool
  | [] => false
  | p :: rest => holds record p || anyHolds record rest

end

theorem allHold_eq (record : Record) (conditions : List Predicate) :
    allHold record conditions = conditions.all (holds record) := by
  induction conditions with
  | nil => rfl
  | cons p rest ih => simp [allHold, ih]

def holds? (condition : Option Predicate) (record : Record) : Bool :=
  condition.all (holds record)

end Predicate

end Allowlist
