import Allowlist.Params.Form

/-! # Parameters

The parameters of a request: names with values, in the order in which they were given, repeated
names included. A look-up of one value takes the last. -/

namespace Allowlist

/-- Names with values in order. -/
structure QueryPairs where
  toList : List (String × String)
  deriving DecidableEq, Repr

namespace QueryPairs

instance : EmptyCollection QueryPairs := ⟨⟨[]⟩⟩

def ofList (pairs : List (String × String)) : QueryPairs := ⟨pairs⟩

/-- A query without the question mark it may start with. -/
def stripMark : List Char → List Char
  | '?' :: rest => rest
  | s => s

/-- The parameters of a form-encoded query; one question mark at its start is passed over. -/
def ofQuery (s : List Char) : QueryPairs := ⟨Form.decode (stripMark s)⟩

def push (p : QueryPairs) (name value : String) : QueryPairs := ⟨p.toList ++ [(name, value)]⟩

/-- The last value of a name. -/
def get? (p : QueryPairs) (name : String) : Option String := p.toList.reverse.lookup name

def getAll (p : QueryPairs) (name : String) : List String :=
  (p.toList.filter (·.1 = name)).map Prod.snd

def size (p : QueryPairs) : Nat := p.toList.length

def isEmpty (p : QueryPairs) : Bool := p.toList.isEmpty

end QueryPairs

end Allowlist
