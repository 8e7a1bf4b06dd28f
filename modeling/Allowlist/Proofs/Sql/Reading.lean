import Allowlist.Proofs.Predicate.Truth
import Allowlist.Sql.Token

/-! # Reading SQL

The condition that stands behind `WHERE` in the text of a statement, and its truth value on a
record. The text is cut into tokens: a word goes on as long as there are letters, a number as long
as there are digits, a name to the quote that is not written twice. `OR` joins what `AND` joins,
`AND` joins what `NOT` may stand in front of, and parentheses make one operand of a condition. -/

namespace Allowlist.Sql

open Text

/-! ## Tokens -/

/-- The words that are spelled in letters alone. -/
def keywords : List Word :=
  [.select, .from, .where, .order, .by, .asc, .desc, .limit, .offset, .and, .or, .not, .isIn, .like,
    .null]

def mark? : List Char → Option (Token × List Char)
  | '*' :: rest => some (.word .all, rest)
  | '(' :: rest => some (.word .opening, rest)
  | ')' :: rest => some (.word .closing, rest)
  | ',' :: rest => some (.word .comma, rest)
  | '=' :: rest => some (.word .eq, rest)
  | '>' :: '=' :: rest => some (.word .gte, rest)
  | '>' :: rest => some (.word .gt, rest)
  | '<' :: '=' :: rest => some (.word .lte, rest)
  | '<' :: rest => some (.word .lt, rest)
  | _ => none

/-- The word of some letters, given the text behind them; counting all rows is one word. -/
def keyword? (letters after : List Char) : Option (Token × List Char) :=
  if letters = "COUNT".toList then
    match after with
    | '(' :: '*' :: ')' :: rest => some (.word .countAll, rest)
    | _ => none
  else (keywords.find? fun w => w.text.toList = letters).map (.word ·, after)

/-- The parts of a name, given what has been read of the first of them. -/
def nameParts? (part : List Char) : List Char → Option (List (List Char) × List Char)
  | [] => none
  | '"' :: '"' :: rest => nameParts? (part ++ ['"']) rest
  | '"' :: '.' :: '"' :: rest => (nameParts? [] rest).map fun (parts, after) => (part :: parts, after)
  | '"' :: rest => some ([part], rest)
  | c :: rest => nameParts? (part ++ [c]) rest

def lexeme? (s : List Char) : Option (Token × List Char) :=
  match s with
  | '"' :: rest => (nameParts? [] rest).map fun (parts, after) => (.name parts, after)
  | '$' :: rest =>
    match takeDigits rest with
    | ([], _) => none
    | (digits, after) => some (.placeholder (ofDigits 10 digits), after)
  | s =>
    match takeDigits s with
    | ([], _) =>
      if s.takeWhile Char.isAlpha = [] then mark? s
      else keyword? (s.takeWhile Char.isAlpha) (s.dropWhile Char.isAlpha)
    | (digits, after) => some (.number (ofDigits 10 digits), after)

def scan (s : List Char) : Option (List Token) :=
  match s with
  | [] => some []
  | ' ' :: rest => scan rest
  | s =>
    match lexeme? s with
    | none => none
    | some (token, after) =>
      if after.length < s.length then (scan after).map (token :: ·) else none
termination_by s.length

/-! ## Conditions -/

/-- An operand of a condition. -/
inductive Term
  | column (name : String)
  | placeholder (index : Nat)
  | number (n : Nat)
  | null
  deriving DecidableEq, Repr

/-- A condition that has been read. -/
inductive Clause
  | compare (comparison : Comparison) (left right : Term)
  | like (left right : Term)
  | isIn (left : Term) (items : List Term)
  | and (left right : Clause)
  | or (left right : Clause)
  | not (clause : Clause)
  deriving Repr

/-- The operand of a token; a name stands for the column with points between its parts. -/
def Term.ofToken? : Token → Option Term
  | .name parts => some (.column (String.ofList (['.'].intercalate parts)))
  | .placeholder index => some (.placeholder index)
  | .number n => some (.number n)
  | .word .null => some .null
  | .word _ => none

def comparison? : Word → Option Comparison
  | .eq => some .eq
  | .gt => some .gt
  | .gte => some .gte
  | .lt => some .lt
  | .lte => some .lte
  | _ => none

/-- What some tokens start with, and the tokens behind it. -/
abbrev Reader (α : Type) := List Token → Option (α × List Token)

def items? : Reader (List Term)
  | t :: .word .comma :: rest => do
    let item ← Term.ofToken? t
    let (items, after) ← items? rest
    return (item :: items, after)
  | t :: .word .closing :: rest => do
    return ([← Term.ofToken? t], rest)
  | _ => none

def atom? : Reader Clause
  | t :: .word .isIn :: .word .opening :: rest => do
    let left ← Term.ofToken? t
    let (items, after) ← items? rest
    return (.isIn left items, after)
  | t :: .word w :: u :: rest => do
    let left ← Term.ofToken? t
    let right ← Term.ofToken? u
    if w = .like then return (.like left right, rest)
    else return (.compare (← comparison? w) left right, rest)
  | _ => none

/-- A condition between parentheses, or one without connectives. -/
def operand? (inner : Reader Clause) : Reader Clause
  | .word .opening :: rest =>
    match inner rest with
    | some (clause, .word .closing :: after) => some (clause, after)
    | _ => none
  | ts => atom? ts

/-- An operand behind any number of negations. -/
def negation? (operand : Reader Clause) : Reader Clause
  | .word .not :: rest => (negation? operand rest).map fun (clause, after) => (.not clause, after)
  | ts => operand ts

/-- Further items, each behind the word that joins them, joined to what has been read. -/
def joined? (joiner : Word) (join : Clause → Clause → Clause) (item : Reader Clause)
    (left : Clause) (ts : List Token) : Option (Clause × List Token) :=
  match ts with
  | [] => some (left, [])
  | t :: rest =>
    if t = .word joiner then
      match item rest with
      | none => none
      | some (right, after) =>
        if after.length ≤ rest.length then joined? joiner join item (join left right) after else none
    else some (left, t :: rest)
termination_by ts.length

/-- Items with the joining word between them. -/
def chain? (joiner : Word) (join : Clause → Clause → Clause) (item : Reader Clause) :
    Reader Clause := fun ts => do
  let (first, rest) ← item ts
  joined? joiner join item first rest

/-- A condition whose parentheses go no deeper than `depth`. -/
def clause? : (depth : Nat) → Reader Clause
  | 0 => fun _ => none
  | depth + 1 =>
    chain? .or .or (chain? .and .and (negation? (operand? (clause? depth))))

/-- The condition behind `WHERE` in a statement, up to its end or its order. -/
def filter? (text : String) : Option Clause := do
  let tokens ← scan text.toList
  match tokens.dropWhile (· ≠ .word .where) with
  | [] => none
  | _ :: after =>
    match ← clause? (after.length + 1) after with
    | (clause, []) => some clause
    | (clause, .word .order :: _) => some clause
    | _ => none

/-! ## What a condition means -/

/-- The value of an operand on a record, given the values of the placeholders. -/
def Term.value (params : List FieldValue) (record : Record) : Term → FieldValue
  | column name => Record.column record name
  | placeholder index => params.getD (index - 1) .null
  | number n => .integer (Int64.ofNat n)
  | null => .null

def Term.placeholders : Term → List Nat
  | placeholder index => [index]
  | _ => []

namespace Clause

/-- The truth value of a condition on a record, given the values of the placeholders. -/
def value (params : List FieldValue) (record : Record) : Clause → Truth
  | compare c left right => (left.value params record).compareTruth c (right.value params record)
  | like left right => (left.value params record).likeTruth (right.value params record)
  | isIn left items => (left.value params record).inTruth (items.map (Term.value params record))
  | and left right => (left.value params record).and (right.value params record)
  | or left right => (left.value params record).or (right.value params record)
  | not clause => (clause.value params record).not

/-- The numbers of the placeholders of a condition, from left to right. -/
def placeholders : Clause → List Nat
  | compare _ left right => left.placeholders ++ right.placeholders
  | like left right => left.placeholders ++ right.placeholders
  | isIn left items => left.placeholders ++ items.flatMap Term.placeholders
  | and left right => left.placeholders ++ right.placeholders
  | or left right => left.placeholders ++ right.placeholders
  | not clause => clause.placeholders

end Clause

end Allowlist.Sql
