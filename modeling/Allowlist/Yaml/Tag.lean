import Allowlist.Text.Utf8
import Allowlist.Yaml.Cursor
import Allowlist.Text.Digits

/-! # Names, tags and directives of YAML

What is written of an anchor, a tag and a directive. A tag is a handle and a suffix; a directive
says which version of YAML a document is in, or what a handle stands for. -/

namespace Allowlist.Yaml

open Text

def endsAnchor (s : List Char) : Bool :=
  startsBlank s || s.head?.any fun c => "?:,]\x7d%@`".toList.contains c

/-- The name of an anchor or alias behind its indicator, and what follows it. -/
def readAnchor (s : List Char) : Option (String × List Char) :=
  let name := s.takeWhile isWordChar
  let rest := s.dropWhile isWordChar
  if name ≠ [] ∧ endsAnchor rest then some (String.ofList name, rest) else none

/-- A handle and a suffix of a tag. -/
structure Tag where
  handle : String
  suffix : String
  deriving DecidableEq, Repr

/-- Whether the character may stand in a tag; some only where it is between angle brackets. -/
def isTagChar (verbatim : Bool) (c : Char) : Bool :=
  isWordChar c || ";/?:@&=+$.%!~*'()".toList.contains c || (verbatim && ",[]".toList.contains c)

/-- What of an escape in a tag has been read. -/
inductive TagEscape
  | none
  | started
  | half (value : Nat)

/-- How many octets follow the first one of a character. -/
def following? (octet : Nat) : Option Nat :=
  if octet < 0x80 then some 0
  else if 0xC0 ≤ octet ∧ octet < 0xE0 then some 1
  else if 0xE0 ≤ octet ∧ octet < 0xF0 then some 2
  else if 0xF0 ≤ octet ∧ octet < 0xF8 then some 3
  else none

/-- The octets of a tag and what follows it. Octets above the ASCII range are escaped and come in
runs of which `missing` says how many are still to come. -/
def readTagOctets (verbatim : Bool) (octets : List UInt8) (escape : TagEscape) (missing : Nat) :
    List Char → Option (List UInt8 × List Char)
  | [] =>
    match escape, missing with
    | .none, 0 => some (octets, [])
    | _, _ => none
  | c :: rest =>
    match escape with
    | .started => do readTagOctets verbatim octets (.half (← hexDigit? c)) missing rest
    | .half high => do
      let octet := high * 16 + (← hexDigit? c)
      let missing ← if missing = 0 then following? octet
        else if 0x80 ≤ octet ∧ octet < 0xC0 then some (missing - 1) else none
      readTagOctets verbatim (octets ++ [octet.toUInt8]) .none missing rest
    | .none =>
      if c = '%' then readTagOctets verbatim octets .started missing rest
      else if missing ≠ 0 then none
      else if isTagChar verbatim c then
        readTagOctets verbatim (octets ++ encodeChar c) .none missing rest
      else some (octets, c :: rest)

def readTagText (verbatim : Bool) (s : List Char) : Option (String × List Char) :=
  (readTagOctets verbatim [] .none 0 s).map fun (octets, rest) =>
    (String.ofList (decodeUtf8 octets), rest)

/-- The characters of a handle: an exclamation mark, or two with a word between them. A word that
no mark ends belongs to no handle. -/
def readHandle (s : List Char) : List Char × List Char :=
  match s with
  | '!' :: rest =>
    match rest.dropWhile isWordChar with
    | '!' :: after => ('!' :: rest.takeWhile isWordChar ++ ['!'], after)
    | _ => (['!'], rest)
  | _ => ([], s)

def readTag (inFlow : Bool) (s : List Char) : Option (Tag × List Char) := do
  let (tag, rest) ← match s with
    | '!' :: '<' :: inner => do
      match ← readTagText true inner with
      | (suffix, '>' :: rest) => if suffix.isEmpty then none else some (⟨"", suffix⟩, rest)
      | _ => none
    | _ => do
      let (handle, inner) := readHandle s
      let (suffix, rest) ← readTagText false inner
      if handle.length ≥ 2 then
        if suffix.isEmpty then none else pure (⟨String.ofList handle, suffix⟩, rest)
      else if suffix.isEmpty then pure (⟨"", "!"⟩, rest)
      else pure (⟨"!", suffix⟩, rest)
  if startsBlank rest || (inFlow && rest.head? = some ',') then some (tag, rest) else none

/-- A directive before a document. -/
inductive Directive
  | version (major minor : Nat)
  | tag (handle stands : String)
  deriving DecidableEq, Repr

/-- A number of at most nine digits, and what follows it. -/
def readVersionPart (s : List Char) : Option (Nat × List Char) :=
  let (digits, rest) := takeDigits s
  if 1 ≤ digits.length ∧ digits.length ≤ 9 then some (ofDigits 10 digits, rest) else none

def readVersion (s : List Char) : Option (Directive × List Char) := do
  match ← readVersionPart s with
  | (major, '.' :: rest) =>
    let (minor, rest) ← readVersionPart rest
    return (.version major minor, rest)
  | _ => none

def readTagDirective (s : List Char) : Option (Directive × List Char) := do
  let (handle, rest) := readHandle s
  let isHandle := handle.length ≥ 2 || (handle.length = 1 && !(rest.head?.any isWordChar))
  if isHandle ∧ rest.head?.any isBlank then
    let (stands, rest) ← readTagText true (rest.dropWhile isBlank)
    if stands.isEmpty || !startsBlank rest then none
    else some (.tag (String.ofList handle) stands, rest)
  else none

/-- A directive behind its indicator, and what follows its line. -/
def readDirective (s : List Char) : Option (Directive × List Char) := do
  let name := String.ofList (s.takeWhile isWordChar)
  let rest := s.dropWhile isWordChar
  if !startsBlank rest then none
  else
    let value := rest.dropWhile isBlank
    let (directive, rest) ← if name = "YAML" then readVersion value
      else if name = "TAG" then readTagDirective value
      else none
    let rest := skipComment (rest.dropWhile isBlank)
    if startsBreak rest then some (directive, skipBreak rest) else none

end Allowlist.Yaml
