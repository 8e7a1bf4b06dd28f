import Allowlist.Params.Pairs

/-! # Request targets

The target of an HTTP request: a path with an optional query, an absolute URI, an authority alone,
or an asterisk. A fragment is cut off. Only the query is kept. -/

namespace Allowlist.Http

open Text

/-- What is asked of a request target: its query as written, if it has one. -/
structure Target where
  query? : Option (List Char)
  deriving DecidableEq, Repr

namespace Target

def maxLength : Nat := 65534

def maxSchemeLength : Nat := 64

def isPathChar (c : Char) : Bool :=
  let n := c.toNat
  n == 0x21 || (0x24 ≤ n && n ≤ 0x3B) || n == 0x3D || (0x40 ≤ n && n ≤ 0x5F) ||
    (0x61 ≤ n && n ≤ 0x7E) || 0x7F ≤ n || c == '"'

def isQueryChar (c : Char) : Bool :=
  let n := c.toNat
  n == 0x21 || (0x24 ≤ n && n ≤ 0x3B) || n == 0x3D || (0x3F ≤ n && n ≤ 0x7E) || 0x80 ≤ n

/-- The target of a path with an optional query, up to a fragment. -/
def ofPath? (s : List Char) : Option Target :=
  let (path, query) := cutAt '?' (cutAt '#' s).1
  if path.all isPathChar && (query.getD []).all isQueryChar then some ⟨query⟩ else none

def isAuthorityChar (c : Char) : Bool :=
  c.isAlphanum || "!#$&'()*+,-./:;=?@[]_~".toList.contains c

def endsAuthority (c : Char) : Bool := c = '/' || c = '?' || c = '#'

/-- What has been seen of an authority: colons, brackets and percent signs since the last `@` or
closing bracket, which they do not reach across, and whether an `@` came last. -/
structure Seen where
  colons : Nat := 0
  opened : Bool := false
  closed : Bool := false
  percent : Bool := false
  atLast : Bool := false

/-- Takes in one character of an authority, unless it cannot stand there. -/
def Seen.step? (seen : Seen) (c : Char) : Option Seen :=
  let seen := { seen with atLast := c = '@' }
  if c = ':' then
    if 8 ≤ seen.colons then none else some { seen with colons := seen.colons + 1 }
  else if c = '[' then
    if seen.percent || seen.opened then none else some { seen with opened := true }
  else if c = ']' then
    if !seen.opened || seen.closed then none
    else some { seen with closed := true, colons := 0, percent := false }
  else if c = '@' then some { seen with colons := 0, percent := false }
  else if c = '%' then some { seen with percent := true }
  else if isAuthorityChar c then some seen
  else none

/-- Whether an authority may be over: brackets closed, one port at most, something after `@`, and
no percent sign in the host. -/
def Seen.isComplete (seen : Seen) : Bool :=
  seen.opened = seen.closed && seen.colons ≤ 1 && !seen.atLast && !seen.percent

/-- Whether the text is an authority; it may be empty. -/
def isAuthority (s : List Char) : Bool :=
  match s.foldlM Seen.step? {} with
  | some seen => seen.isComplete
  | none => false

def isSchemeChar (c : Char) : Bool :=
  c.isAlphanum || c = '+' || c = '-' || c = '.' || c = '~'

/-- The length of a scheme and what follows its colon and two slashes; none if there is no scheme.
-/
def cutScheme? (s : List Char) : Option (Nat × List Char) :=
  match s.dropWhile isSchemeChar with
  | ':' :: '/' :: '/' :: rest => some ((s.takeWhile isSchemeChar).length, rest)
  | _ => none

/-- The target of an absolute URI without its scheme. -/
def ofAuthority? (s : List Char) : Option Target :=
  let authority := s.takeWhile (!endsAuthority ·)
  if authority ≠ [] ∧ isAuthority authority then ofPath? (s.dropWhile (!endsAuthority ·)) else none

/-- The target of a text that is no path. -/
def ofAbsolute? (s : List Char) : Option Target :=
  match cutScheme? s with
  | some (length, rest) => if length ≤ maxSchemeLength then ofAuthority? rest else none
  | none => if !s.any endsAuthority && isAuthority s then some ⟨none⟩ else none

def parse? (s : List Char) : Option Target :=
  if maxLength < (encodeUtf8 s).length then none
  else match s with
    | [] => none
    | ['*'] => some ⟨none⟩
    | '/' :: _ => ofPath? s
    | _ => ofAbsolute? s

def pairs (t : Target) : QueryPairs := (t.query?.map QueryPairs.ofQuery).getD ∅

end Target

end Allowlist.Http
