import Allowlist.Number
import Allowlist.OrderedMap
import Allowlist.Text.Digits
import Allowlist.Yaml.Document

/-! # Decoding YAML

Readers of one kind of value each. Any scalar is a string. A record is read from a mapping, whose
unknown fields are passed over and whose known ones must not repeat; a map keeps the first place
and the last value of a repeated name; a mapping of which nothing is written is empty. Following
too many aliases is refused: a hundred for each part of the document. -/

namespace Allowlist.Yaml

open Text

/-- Reads a value from a document, counting the aliases that it follows. -/
abbrev Decode := ReaderT Document (StateT Nat Option)

namespace Decode

def refuse {α : Type} : Decode α := fun _ _ => none

/-- How many aliases a document may be read through. -/
def aliasLimit (d : Document) : Nat := 100 * (d.root.map Node.size).getD 1

/-- The node itself, or the one that an alias stands for. -/
def follow : Node → Decode Node
  | .alias slot => do
    let d ← read
    let followed := (← get) + 1
    set followed
    match d.targets.lookup slot with
    | some n => if followed ≤ aliasLimit d then return n else refuse
    | none => refuse
  | n => return n

/-- Whether a plain scalar stands for a missing value. -/
def isNullText (s : String) : Bool := ["null", "Null", "NULL", "~"].contains s

def isUnwritten : Node → Bool
  | .scalar _ .plain s => s.isEmpty
  | _ => false

def string (n : Node) : Decode String := do
  match ← follow n with
  | .scalar _ _ s => return s
  | _ => refuse

def integerTag : String := "tag:yaml.org,2002:int"

def nullTag : String := "tag:yaml.org,2002:null"

/-- The number of digits in a base. -/
def inBase? (base : Nat) (s : List Char) : Option Nat :=
  let digits := s.filterMap hexDigit?
  if s ≠ [] ∧ s.all isHexDigit ∧ digits.all (· < base) then
    let n := ofDigits base digits
    if n < wordCount then some n else none
  else none

def decimal? (s : List Char) : Option Nat :=
  if 1 < s.length ∧ s.head? = some '0' then none else inBase? 10 s

/-- The number of 64 bits that a text denotes: decimal after at most one plus sign, or in another
base after its mark. -/
def number? (s : String) : Option Nat :=
  let digits := match s.toList with
    | '+' :: rest => rest
    | s => s
  match digits with
  | '0' :: 'x' :: rest => inBase? 16 rest
  | '0' :: 'o' :: rest => inBase? 8 rest
  | '0' :: 'b' :: rest => inBase? 2 rest
  | digits => decimal? digits

def uint64 (n : Node) : Decode UInt64 := do
  match ← follow n with
  | .scalar tag style s =>
    if style = .plain ∨ (style = .literal ∧ tag = some integerTag) then
      match number? s with
      | some n => return UInt64.ofNat n
      | none => refuse
    else refuse
  | _ => refuse

/-- The name that a tag of the document's own gives. -/
def tagName? (tag : String) : Option String :=
  match tag.toList with
  | ['!'] => some tag
  | '!' :: name => some (String.ofList name)
  | _ => none

/-- One of the named values: as the text of a scalar, or as a tag with nothing behind it. -/
def choice {α : Type} (names : List (String × α)) (n : Node) : Decode α := do
  let name ← match ← follow n with
    | .scalar tag style s =>
      match tag.bind tagName? with
      | some name =>
        if style = .plain ∧ (s.isEmpty ∨ isNullText s) then pure name else refuse
      | none => pure s
    | _ => refuse
  match names.lookup name with
  | some a => return a
  | none => refuse

/-- A value that may be missing. -/
def optional {α : Type} (decode : Node → Decode α) : Option Node → Decode (Option α)
  | none => return none
  | some n => do
    let n ← follow n
    match n with
    | .scalar tag .plain s =>
      match tag with
      | none => if s.isEmpty ∨ isNullText s then return none else some <$> decode n
      | some tag =>
        if tag = nullTag then (if isNullText s then return none else refuse)
        else some <$> decode n
    | _ => some <$> decode n

/-- A value that may be left out. -/
def withDefault {α : Type} (decode : Node → Decode α) (default : α) : Option Node → Decode α
  | none => return default
  | some n => decode n

def entries (n : Node) : Decode (List (Node × Node)) := do
  match ← follow n with
  | .mapping entries => return entries
  | n => if isUnwritten n then return [] else refuse

def namedEntries (n : Node) : Decode (List (String × Node)) := do
  (← entries n).mapM fun (k, v) => return (← string k, v)

/-- The one field of a name: missing, there, or refused because it repeats. -/
def field (fields : List (String × Node)) (name : String) : Decode (Option Node) :=
  match fields.filter (·.1 = name) with
  | [] => return none
  | [(_, v)] => return some v
  | _ => refuse

def record (names : List String) (n : Node) : Decode (List (Option Node)) := do
  let fields ← namedEntries n
  names.mapM (field fields)

def map {α : Type} (decode : Node → Decode α) (n : Node) : Decode (OrderedMap α) := do
  let values ← (← namedEntries n).mapM fun (k, v) => return (k, ← decode v)
  return OrderedMap.ofList values

def run {α : Type} (decode : Node → Decode α) (d : Document) : Option α :=
  (decode (d.root.getD .empty) d 0).map Prod.fst

end Decode

end Allowlist.Yaml
