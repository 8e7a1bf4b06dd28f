import Allowlist.Text.Digits
import Allowlist.Text.EscapeTable
import Allowlist.Text.Range

/-! # Quoted texts for messages

A text between double quotes in which every character can be told apart: quotes, backslashes and
the usual controls by an escape, characters without a face of their own by their code point. -/

namespace Allowlist.Text

/-- Whether a quoted text shows the character by its code point. -/
def isHidden (c : Char) : Bool :=
  let n := c.toNat
  if n < 0x20 then true else if n < 0x7F then false else inRanges hiddenRanges n

def quoteChar (c : Char) : List Char :=
  if c = '\x00' then ['\\', '0']
  else if c = '\t' then ['\\', 't']
  else if c = '\n' then ['\\', 'n']
  else if c = '\r' then ['\\', 'r']
  else if c = '"' then ['\\', '"']
  else if c = '\\' then ['\\', '\\']
  else if isHidden c then ['\\', 'u', '\x7b'] ++ hexadecimal c.toNat ++ ['\x7d']
  else [c]

def quoted (s : List Char) : List Char :=
  '"' :: s.flatMap quoteChar ++ ['"']

end Allowlist.Text
