import Allowlist.Sql.Token
import Allowlist.Store.Basic

/-! # SQL statements

List queries as parameterised SQL. No value is written into a statement: each operand that is not
null becomes a placeholder, numbered from 1 in the order of the text, and its value a parameter.
Null operands are written as `NULL`, which no comparison with is true. The names that are written
must be valid, or there is no statement. -/

namespace Allowlist.Sql

/-- A statement, or a part of one, with the values of its placeholders in order. -/
structure Statement where
  tokens : List Token
  params : List FieldValue
  deriving Repr

namespace Statement

def text (s : Statement) : String := String.ofList (Token.layout s.tokens)

def ofTokens (tokens : List Token) : Statement := ⟨tokens, []⟩

def ofWords (words : List Word) : Statement := ofTokens (words.map .word)

def append (s t : Statement) : Statement := ⟨s.tokens ++ t.tokens, s.params ++ t.params⟩

instance : Append Statement := ⟨append⟩

def parenthesized (s : Statement) : Statement := ofWords [.opening] ++ s ++ ofWords [.closing]

def ofName (name : String) : Except StoreError Statement :=
  (Token.ofName name).map fun t => ofTokens [t]

def tautology : Statement := ofTokens [.number 1, .word .eq, .number 1]

def contradiction : Statement := ofTokens [.number 1, .word .eq, .number 0]

/-- An operand, whose placeholder has the number `next` if it needs one. -/
def operand (next : Nat) (value : FieldValue) : Statement :=
  if value.isNull then ofWords [.null] else ⟨[.placeholder next], [value]⟩

/-- Further operands of a list, each after a comma. -/
def furtherOperands (next : Nat) : List FieldValue → Statement
  | [] => ofTokens []
  | value :: rest =>
    let first := operand next value
    ofWords [.comma] ++ first ++ furtherOperands (next + first.params.length) rest

def operands (next : Nat) : List FieldValue → Statement
  | [] => ofTokens []
  | value :: rest =>
    let first := operand next value
    first ++ furtherOperands (next + first.params.length) rest

def comparisonWord : Comparison → Word
  | .eq => .eq
  | .gt => .gt
  | .gte => .gte
  | .lt => .lt
  | .lte => .lte

mutual

/-- A condition, whose placeholders are numbered from `next`. -/
def condition (next : Nat) : Predicate → Except StoreError Statement
  | .compare c column value => do
    return (← ofName column) ++ ofWords [comparisonWord c] ++ operand next value
  | .like column pattern => do
    return (← ofName column) ++ ofWords [.like] ++ operand next (.string pattern)
  | .isIn _ [] => return contradiction
  | .isIn column (value :: rest) => do
    return (← ofName column) ++ ofWords [.isIn] ++ parenthesized (operands next (value :: rest))
  | .all [] => return tautology
  | .all (p :: rest) => do
    let first ← condition next p
    return parenthesized (first ++ (← further .and (next + first.params.length) rest))
  | .any [] => return contradiction
  | .any (p :: rest) => do
    let first ← condition next p
    return parenthesized (first ++ (← further .or (next + first.params.length) rest))
  | .not p => return ofWords [.not] ++ parenthesized (← condition next p)

/-- Further conditions of a group, each after the word that joins the group. -/
def further (joiner : Word) (next : Nat) : List Predicate → Except StoreError Statement
  | [] => return ofTokens []
  | p :: rest => do
    let first ← condition next p
    return ofWords [joiner] ++ first ++ (← further joiner (next + first.params.length) rest)

end

def restriction : Option Predicate → Except StoreError Statement
  | none => return ofTokens []
  | some p => return ofWords [.where] ++ (← condition 1 p)

def directionWord : SortDirection → Word
  | .asc => .asc
  | .desc => .desc

def ordering (o : OrderBy) : Except StoreError Statement :=
  return ofWords [.order, .by] ++ (← ofName o.column) ++ ofWords [directionWord o.direction]

def window (limit offset : UInt64) : Statement :=
  ofTokens [.word .limit, .number limit.toNat, .word .offset, .number offset.toNat]

def select (table : String) (q : SelectQuery) : Except StoreError Statement :=
  return ofWords [.select, .all, .from] ++ (← ofName table) ++ (← restriction q.filter) ++
    (← ordering q.orderBy) ++ window q.limit q.offset

def count (table : String) (filter : Option Predicate) : Except StoreError Statement :=
  return ofWords [.select, .countAll, .from] ++ (← ofName table) ++ (← restriction filter)

end Statement

end Allowlist.Sql
