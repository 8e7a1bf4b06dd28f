/-! # Characters and positions of YAML

The character classes that YAML is written in, and the position of a text that is being read. Five
line breaks are known, of which the pair of carriage return and line feed counts as one. -/

namespace Allowlist.Yaml

/-- Whether a text may hold the character. -/
def isPrintable (c : Char) : Bool :=
  let n := c.toNat
  n == 0x09 || n == 0x0A || n == 0x0D || (0x20 ≤ n && n ≤ 0x7E) || n == 0x85 ||
    (0xA0 ≤ n && n ≤ 0xFFFD) || 0x10000 ≤ n

/-- A space or tab. -/
def isBlank (c : Char) : Bool := c = ' ' || c = '\t'

def isBreak (c : Char) : Bool :=
  c = '\n' || c = '\r' || c = '\u0085' || c = '\u2028' || c = '\u2029'

/-- A letter, digit, underscore or hyphen. -/
def isWordChar (c : Char) : Bool := c.isAlphanum || c = '_' || c = '-'

/-- Whether the text is over or goes on with a blank or a line break. -/
def startsBlank : List Char → Bool
  | [] => true
  | c :: _ => isBlank c || isBreak c

def startsBreak : List Char → Bool
  | [] => true
  | c :: _ => isBreak c

/-- Whether the text starts with three of the given character and then a blank. -/
def startsMark (mark : Char) : List Char → Bool
  | a :: b :: c :: rest => a = mark && b = mark && c = mark && startsBlank rest
  | _ => false

/-- Whether the text, at the start of a line, starts or ends a document. -/
def startsDocumentMark (s : List Char) : Bool := startsMark '-' s || startsMark '.' s

/-- The text of a line break: a line feed but for the two separators of Unicode. -/
def breakText (c : Char) : Char := if c = '\u2028' ∨ c = '\u2029' then c else '\n'

/-- What is left of a text, and where that stands. -/
structure Cursor where
  rest : List Char
  index : Nat
  line : Nat
  column : Nat

namespace Cursor

/-- Moves on until `rest` is left. -/
def moveTo (rest : List Char) (c : Cursor) : Cursor :=
  (c.rest.take (c.rest.length - rest.length)).zip ((c.rest.drop 1).map some ++ [none])
  |>.foldl (fun c (a, next) =>
      if isBreak a && !(a = '\r' && next = some '\n') then
        { c with index := c.index + 1, line := c.line + 1, column := 0 }
      else { c with index := c.index + 1, column := c.column + 1 })
    { c with rest := rest }

def skip (n : Nat) (c : Cursor) : Cursor := c.moveTo (c.rest.drop n)

end Cursor

def skipComment : List Char → List Char
  | '#' :: rest => rest.dropWhile (!isBreak ·)
  | s => s

def skipBreak : List Char → List Char
  | '\r' :: '\n' :: rest => rest
  | c :: rest => if isBreak c then rest else c :: rest
  | [] => []

end Allowlist.Yaml
