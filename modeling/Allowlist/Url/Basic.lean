import Allowlist.Params.Pairs
import Allowlist.Url.Host

/-! # URLs

Reading an absolute URL as far as its query. Most of a URL cannot be wrong; it is refused for its
scheme, its authority or its port. Controls and spaces around it are passed over, as are tabs and
line ends within. -/

namespace Allowlist

open Text

/-- What is asked of a URL: its scheme, and its query as written, if it has one. -/
structure Url where
  scheme : List Char
  query? : Option (List Char)
  deriving DecidableEq, Repr

namespace Url

/-- Whether the character is passed over around a URL. -/
def isMargin (c : Char) : Bool := c.toNat ≤ 0x20

/-- Whether the character is passed over anywhere in a URL. -/
def isDropped (c : Char) : Bool := c = '\t' || c = '\n' || c = '\r'

/-- The text that counts. -/
def strip (s : List Char) : List Char :=
  (((s.dropWhile isMargin).reverse.dropWhile isMargin).reverse).filter (!isDropped ·)

def isSchemeChar (c : Char) : Bool := c.isAlphanum || c = '+' || c = '-' || c = '.'

/-- The scheme of a URL in lower case, and what follows its colon. -/
def takeScheme? (s : List Char) : Option (List Char × List Char) :=
  let scheme := s.takeWhile isSchemeChar
  match scheme, s.dropWhile isSchemeChar with
  | first :: _, ':' :: rest => if first.isAlpha then some (scheme.map Char.toLower, rest) else none
  | _, _ => none

/-- The three kinds of scheme, which differ in how an authority is read. -/
inductive SchemeKind
  | file
  | network
  | other
  deriving DecidableEq, Repr

def SchemeKind.of (scheme : List Char) : SchemeKind :=
  if scheme = "file".toList then .file
  else if ["http", "https", "ws", "wss", "ftp"].contains (String.ofList scheme) then .network
  else .other

def endsAuthority (kind : SchemeKind) (c : Char) : Bool :=
  c = '/' || c = '?' || c = '#' || (c = '\\' && kind ≠ .other)

/-- The text after the last `@`, and the text before it. -/
def cutLastAt (s : List Char) : Option (List Char) × List Char :=
  match cutAt '@' s.reverse with
  | (host, some user) => (some user.reverse, host.reverse)
  | (_, none) => (none, s)

/-- Whether user information says anything: more than a lone colon. -/
def isUserGiven (user : List Char) : Bool := user ≠ [] && user ≠ [':']

/-- The host of a text up to a colon outside of brackets, and what follows it. -/
def takeHost (inBrackets : Bool) : List Char → List Char × List Char
  | [] => ([], [])
  | c :: rest =>
    if c = ':' ∧ !inBrackets then ([], c :: rest)
    else
      let (host, after) := takeHost (if c = '[' then true else if c = ']' then false else inBrackets) rest
      (c :: host, after)

/-- Whether a port follows, or nothing. -/
def isPort : List Char → Bool
  | [] => true
  | ':' :: digits => digits.all isDigit && ofDigits 10 (digits.filterMap digit?) < 65536
  | _ => false

/-- Whether the text starts with an authority that can be read; `kind` is not `file`. -/
def isAuthority (kind : SchemeKind) (s : List Char) : Bool :=
  let authority := s.takeWhile (!endsAuthority kind ·)
  let rest := s.dropWhile (!endsAuthority kind ·)
  let (user, address) := cutLastAt authority
  let (host, port) := takeHost false address
  let userAllowed := match user with
    | some [] => !(address = [] && rest ≠ [])
    | some user => host ≠ [] || !isUserGiven user
    | none => true
  userAllowed && isPort port &&
    if host = [] then kind = .other && port = []
    else if kind = .other then isOpaqueHost host else isHost host

/-- Whether the text is a drive of a file system, such as `C:`. -/
def isDrive : List Char → Bool
  | [letter, mark] => letter.isAlpha && (mark = ':' || mark = '|')
  | _ => false

def isSlash (c : Char) : Bool := c = '/' || c = '\\'

/-- Whether what follows the colon of a file URL can be read. -/
def isFileRest : List Char → Bool
  | a :: b :: rest =>
    let host := rest.takeWhile (!endsAuthority .file ·)
    !(isSlash a && isSlash b) || host = [] || isDrive host || isHost host
  | _ => true

def isRest (kind : SchemeKind) (s : List Char) : Bool :=
  match kind with
  | .file => isFileRest s
  | .network => isAuthority kind (s.dropWhile isSlash)
  | .other =>
    match s with
    | '/' :: '/' :: rest => isAuthority kind rest
    | _ => true

def parse? (s : List Char) : Option Url := do
  let (scheme, rest) ← takeScheme? (strip s)
  if isRest (SchemeKind.of scheme) rest then
    some ⟨scheme, (cutAt '?' (cutAt '#' rest).1).2⟩
  else none

def pairs (u : Url) : QueryPairs := .ofList (Form.decode (u.query?.getD []))

end Url

end Allowlist
