import Allowlist.Predicate.Eval

/-! # The three-valued meaning of conditions

In SQL a condition is true, false or unknown. A comparison with null is unknown, and so is one with
a column that a record lacks; membership in a list is the disjunction of equalities; the connectives
are those of Kleene. -/

namespace Allowlist

/-- The truth values of SQL. -/
inductive Truth
  | no
  | unknown
  | yes
  deriving DecidableEq, Repr

namespace Truth

def ofBool (b : Bool) : Truth := if b then yes else no

def not : Truth → Truth
  | no => yes
  | unknown => unknown
  | yes => no

def and : Truth → Truth → Truth
  | no, _ => no
  | _, no => no
  | yes, yes => yes
  | _, _ => unknown

def or : Truth → Truth → Truth
  | yes, _ => yes
  | _, yes => yes
  | no, no => no
  | _, _ => unknown

/-- The conjunction of a list, true if it is empty. -/
def all (ts : List Truth) : Truth := ts.foldr and yes

/-- The disjunction of a list, false if it is empty. -/
def any (ts : List Truth) : Truth := ts.foldr or no

variable {a b c : Truth}

theorem and_assoc : (a.and b).and c = a.and (b.and c) := by
  cases a <;> cases b <;> cases c <;> rfl

theorem or_assoc : (a.or b).or c = a.or (b.or c) := by
  cases a <;> cases b <;> cases c <;> rfl

@[simp] theorem and_yes : a.and yes = a := by cases a <;> rfl

@[simp] theorem or_no : a.or no = a := by cases a <;> rfl

@[simp] theorem ofBool_eq_yes {p : Bool} : ofBool p = yes ↔ p = true := by cases p <;> simp [ofBool]

theorem ofBool_ne_unknown {p : Bool} : ofBool p ≠ unknown := by cases p <;> simp [ofBool]

theorem not_ofBool (p : Bool) : (ofBool p).not = ofBool (!p) := by cases p <;> rfl

theorem and_ofBool (p q : Bool) : (ofBool p).and (ofBool q) = ofBool (p && q) := by
  cases p <;> cases q <;> rfl

theorem or_ofBool (p q : Bool) : (ofBool p).or (ofBool q) = ofBool (p || q) := by
  cases p <;> cases q <;> rfl

theorem or_eq_yes : a.or b = yes ↔ a = yes ∨ b = yes := by
  cases a <;> cases b <;> simp [or]

theorem or_eq_no : a.or b = no ↔ a = no ∧ b = no := by
  cases a <;> cases b <;> simp [or]

theorem any_eq_yes {ts : List Truth} : any ts = yes ↔ yes ∈ ts := by
  induction ts with
  | nil => simp [any]
  | cons t rest ih => rw [show any (t :: rest) = t.or (any rest) from rfl, or_eq_yes, ih,
      List.mem_cons, eq_comm]

theorem any_eq_no {ts : List Truth} : any ts = no ↔ ∀ t ∈ ts, t = no := by
  induction ts with
  | nil => simp [any]
  | cons t rest ih => rw [show any (t :: rest) = t.or (any rest) from rfl, or_eq_no, ih,
      List.forall_mem_cons]

end Truth

namespace FieldValue

theorem eq_null_of_isNull {a : FieldValue} (h : a.isNull = true) : a = .null := by
  cases a <;> first | rfl | cases h

/-- What it is to compare two values, unknown if one of them is null. -/
def compareTruth (c : Comparison) (a b : FieldValue) : Truth :=
  if a.isNull || b.isNull then .unknown else .ofBool ((a.compare? b).any c.accepts)

/-- Whether the text of one value matches that of another as a pattern, unknown if one is null. -/
def likeTruth (a b : FieldValue) : Truth :=
  if a.isNull || b.isNull then .unknown
  else .ofBool (match a.text?, b.text? with
    | some text, some pattern => Like.isMatch text.toList pattern.toList
    | _, _ => false)

def inTruth (a : FieldValue) (values : List FieldValue) : Truth :=
  .any (values.map (compareTruth .eq a))

end FieldValue

/-- The value of a column, null if the record lacks it. -/
def Record.column (record : Record) (column : Column) : FieldValue :=
  (record.get? column).getD .null

namespace Predicate

mutual

def truth (record : Record) : Predicate → Truth
  | compare c column value => (Record.column record column).compareTruth c value
  | like column pattern => (Record.column record column).likeTruth (.string pattern)
  | isIn column values => (Record.column record column).inTruth values
  | all conditions => .all (truths record conditions)
  | any conditions => .any (truths record conditions)
  | not condition => (truth record condition).not

def truths (record : Record) : List Predicate → List Truth
  | [] => []
  | p :: rest => truth record p :: truths record rest

end

theorem truths_eq (record : Record) (conditions : List Predicate) :
    truths record conditions = conditions.map (truth record) := by
  induction conditions with
  | nil => rfl
  | cons p rest ih => simp [truths, ih]

end Predicate

end Allowlist
