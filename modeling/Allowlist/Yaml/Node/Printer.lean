import Allowlist.Text.Digits
import Allowlist.Yaml.Node

/-! # Writing YAML

A node as a text of one line. Strings stand between double quotes, with an escape for every
character that is no plain part of a line, and every key has its mark, so keys may have any
length. -/

namespace Allowlist.Yaml

open Text

/-- Whether the character is written as it is between double quotes. -/
def isLiteral (c : Char) : Bool :=
  isPrintable c && !isBreak c && c ≠ '\t' && c ≠ '"' && c ≠ '\\' && c ≠ '\ufeff'

def quoteChar (c : Char) : List Char :=
  if isLiteral c then [c] else ['\\', 'U'] ++ fixedWidth 16 8 c.toNat

def quoteText (s : String) : List Char := ['"'] ++ s.toList.flatMap quoteChar ++ ['"']

namespace Node

mutual

/-- The text of a node; anchors and tags are not written. -/
def render : Node → List Char
  | .scalar _ .plain s => s.toList
  | .scalar _ _ s => quoteText s
  | .sequence [] => ['[', ']']
  | .sequence (v :: rest) => ['['] ++ render v ++ renderItems rest ++ [']']
  | .mapping [] => ['\x7b', '\x7d']
  | .mapping ((k, v) :: rest) =>
    ['\x7b'] ++ ['?', ' '] ++ render k ++ [' ', ':', ' '] ++ render v ++ renderEntries rest ++
      ['\x7d']
  | .alias _ => []

/-- Further items of a sequence, each after a comma. -/
def renderItems : List Node → List Char
  | [] => []
  | v :: rest => [',', ' '] ++ render v ++ renderItems rest

/-- Further entries of a mapping, each after a comma. -/
def renderEntries : List (Node × Node) → List Char
  | [] => []
  | (k, v) :: rest =>
    [',', ' ', '?', ' '] ++ render k ++ [' ', ':', ' '] ++ render v ++ renderEntries rest

end

def ofString (s : String) : Node := .scalar none .doubleQuoted s

def ofNat (n : Nat) : Node := .scalar none .plain (String.ofList (decimal n))

def ofFields (fields : List (String × Node)) : Node :=
  .mapping (fields.map fun (k, v) => (ofString k, v))

end Node

end Allowlist.Yaml
