import Allowlist.Text.Digits
import Allowlist.Yaml.Cursor

/-! # Scalars of YAML

The text of a scalar in each of its styles. In plain and quoted scalars a single line break counts
as a space, of several the first is dropped, and blanks around them do not count. A literal scalar
keeps its line breaks; a folded one treats those between lines that start with text likewise. -/

namespace Allowlist.Yaml

open Text

/-- How a scalar is written. -/
inductive Style
  | plain
  | singleQuoted
  | doubleQuoted
  | literal
  | folded
  deriving DecidableEq, Repr

/-- The text of a scalar so far, last character first, and what is pending after it: blanks of the
same line, or the first line break and those after it. -/
structure Folding where
  text : List Char := []
  blanks : List Char := []
  breaks : Option (List Char × List Char) := none

namespace Folding

/-- Takes in a blank, which no longer counts once a line break is pending. -/
def addBlank (f : Folding) (c : Char) : Folding :=
  if f.breaks.isSome then f else { f with blanks := c :: f.blanks }

/-- Takes in a line break; blanks before it do not count. -/
def addBreak (f : Folding) (c : Char) : Folding :=
  match f.breaks with
  | none => { f with blanks := [], breaks := some ([breakText c], []) }
  | some (first, more) => { f with breaks := some (first, breakText c :: more) }

/-- The text that line breaks stand for. -/
def foldedBreaks (first more : List Char) : List Char :=
  if first.head? = some '\n' then (if more = [] then [' '] else more) else more ++ first

/-- Takes what is pending into the text. -/
def settle (f : Folding) : Folding :=
  match f.breaks with
  | none => { text := f.blanks ++ f.text }
  | some (first, more) => { text := foldedBreaks first more ++ f.text }

def push (f : Folding) (c : Char) : Folding :=
  let f := f.settle
  { f with text := c :: f.text }

/-- Takes in an escaped line break, which stands for nothing. -/
def dropBreak (f : Folding) : Folding := { f.settle with breaks := some ([], []) }

def result (f : Folding) : String := String.ofList f.text.reverse

end Folding

/-! ## Plain scalars -/

/-- Whether the character ends a plain scalar inside brackets. -/
def isFlowEnd (c : Char) : Bool := ",[]\x7b\x7d".toList.contains c

/-- Whether a plain scalar may start here. -/
def startsPlain (inFlow : Bool) : List Char → Bool
  | [] => false
  | c :: rest =>
    !(startsBlank [c] || "-?:,[]\x7b\x7d#&*!|>'\"%@`".toList.contains c) ||
      (c = '-' && !(rest.head?.any isBlank)) ||
      (!inFlow && (c = '?' || c = ':') && !startsBlank rest)

/-- A plain scalar from where it starts or from where its last blanks start, with what follows it
and the blanks after it. A line that is indented less than `indent` ends it, outside of brackets. -/
def readPlain (inFlow : Bool) (indent : Int) (f : Folding) (afterBlank : Bool) (column : Nat) :
    List Char → Option (Folding × List Char)
  | [] => some (f, [])
  | c :: rest =>
    if isBlank c then
      if f.breaks.isSome ∧ (column : Int) < indent ∧ c = '\t' then none
      else readPlain inFlow indent (f.addBlank c) true (column + 1) rest
    else if isBreak c then
      if c = '\r' ∧ rest.head? = some '\n' then readPlain inFlow indent f afterBlank column rest
      else readPlain inFlow indent (f.addBreak c) true 0 rest
    else if afterBlank ∧ ((!inFlow ∧ (column : Int) < indent) ∨ c = '#' ∨
        (column = 0 ∧ startsDocumentMark (c :: rest))) then
      some (f, c :: rest)
    else if inFlow ∧ c = ':' ∧ rest.head?.any (fun d => isFlowEnd d || d = '?') then none
    else if (c = ':' ∧ startsBlank rest) ∨ (inFlow ∧ isFlowEnd c) then some (f, c :: rest)
    else readPlain inFlow indent (f.push c) false (column + 1) rest

/-! ## Quoted scalars -/

def escape? (c : Char) : Option Char :=
  [('0', '\x00'), ('a', '\x07'), ('b', '\x08'), ('t', '\t'), ('\t', '\t'), ('n', '\n'),
    ('v', '\x0b'), ('f', '\x0c'), ('r', '\r'), ('e', '\x1b'), (' ', ' '), ('"', '"'), ('/', '/'),
    ('\\', '\\'), ('N', '\u0085'), ('_', '\u00a0'), ('L', '\u2028'), ('P', '\u2029')].lookup c

/-- How many digits the code of a character has after this letter. -/
def codeLength? (c : Char) : Option Nat := [('x', 2), ('u', 4), ('U', 8)].lookup c

def ofCode? (n : Nat) : Option Char :=
  if n.isValidChar then some (Char.ofNat n) else none

/-- What of an escape in double quotes has been read. -/
inductive Escape
  | none
  | started
  | code (missing value : Nat)

/-- A scalar from behind its opening quote, or from within, and what follows its closing quote. -/
def readQuoted (quote : Char) (f : Folding) (escape : Escape) (lineStart : Bool) :
    List Char → Option (String × List Char)
  | [] => none
  | c :: rest =>
    match escape with
    | .code missing value =>
      match hexDigit? c with
      | none => none
      | some d =>
        if missing ≤ 1 then
          match ofCode? (value * 16 + d) with
          | none => none
          | some a => readQuoted quote (f.push a) .none false rest
        else readQuoted quote f (.code (missing - 1) (value * 16 + d)) false rest
    | .started =>
      if isBreak c then
        if c = '\r' ∧ rest.head? = some '\n' then readQuoted quote f .started lineStart rest
        else readQuoted quote f.dropBreak .none true rest
      else
        match escape? c, codeLength? c with
        | some a, _ => readQuoted quote (f.push a) .none false rest
        | none, some n => readQuoted quote f (.code n 0) false rest
        | none, none => none
    | .none =>
      if isBlank c then readQuoted quote (f.addBlank c) .none false rest
      else if isBreak c then
        if c = '\r' ∧ rest.head? = some '\n' then readQuoted quote f .none lineStart rest
        else readQuoted quote (f.addBreak c) .none true rest
      else if lineStart ∧ startsDocumentMark (c :: rest) then none
      else if c = quote then
        match rest with
        | d :: after =>
          if quote = '\'' ∧ d = quote then readQuoted quote (f.push d) .none false after
          else some (f.settle.result, d :: after)
        | [] => some (f.settle.result, [])
      else if quote = '"' ∧ c = '\\' then readQuoted quote f .started false rest
      else readQuoted quote (f.push c) .none false rest

/-! ## Block scalars -/

/-- What becomes of the line breaks at the end of a block scalar. -/
inductive Chomping
  | strip
  | clip
  | keep
  deriving DecidableEq, Repr

/-- The chomping and the indentation that the head of a block scalar sets. -/
structure BlockHead where
  chomping : Chomping := .clip
  indentation : Option Nat := none

def chomping? (c : Char) : Option Chomping := [('+', Chomping.keep), ('-', .strip)].lookup c

/-- An indentation, which is not zero. -/
def indentation? (c : Char) : Option (Option Nat) :=
  (digit? c).map fun d => if d = 0 then none else some d

/-- The head of a block scalar behind its indicator: a chomping sign and an indentation in either
order. -/
def readBlockHead (s : List Char) : Option (BlockHead × List Char) :=
  match s with
  | [] => some ({}, [])
  | c :: rest =>
    match chomping? c, indentation? c with
    | some chomping, _ =>
      match rest with
      | d :: after =>
        match indentation? d with
        | some none => none
        | some indentation => some (⟨chomping, indentation⟩, after)
        | none => some (⟨chomping, none⟩, d :: after)
      | [] => some (⟨chomping, none⟩, [])
    | none, some none => none
    | none, some indentation =>
      match rest with
      | d :: after =>
        match chomping? d with
        | some chomping => some (⟨chomping, indentation⟩, after)
        | none => some (⟨.clip, indentation⟩, d :: after)
      | [] => some (⟨.clip, indentation⟩, [])
    | none, none => some ({}, s)

/-- The largest indentation up to the first line that is not empty; a tab among its spaces is
refused. -/
def leadingIndentation (column largest : Nat) : List Char → Option Nat
  | [] => some (max column largest)
  | c :: rest =>
    if c = ' ' then leadingIndentation (column + 1) largest rest
    else if c = '\t' then none
    else if isBreak c then leadingIndentation 0 (max column largest) rest
    else some (max column largest)

/-- The lines of a block scalar so far: their text, last character first, the line break after the
last line, the breaks of the empty lines after that, and whether the last line starts blank. -/
structure Lines where
  text : List Char := []
  lineBreak : List Char := []
  emptyLines : List Char := []
  startsBlank : Bool := false

namespace Lines

/-- Starts a line. -/
def startLine (folded : Bool) (l : Lines) (blank : Bool) : Lines :=
  let joined :=
    if folded ∧ l.lineBreak = ['\n'] ∧ !l.startsBlank ∧ !blank then
      if l.emptyLines = [] then [' '] else []
    else l.lineBreak
  { text := l.emptyLines ++ joined ++ l.text, startsBlank := blank }

def result (chomping : Chomping) (l : Lines) : String :=
  String.ofList (match chomping with
    | .strip => l.text
    | .clip => l.lineBreak ++ l.text
    | .keep => l.emptyLines ++ l.lineBreak ++ l.text).reverse

end Lines

/-- The lines of a block scalar from the start of a line, or from within a line where `column` is
missing, and what follows them. -/
def readLines (folded : Bool) (indent : Nat) (l : Lines) (column : Option Nat) :
    List Char → Option (Lines × List Char)
  | [] => some (l, [])
  | c :: rest =>
    if c = '\r' ∧ rest.head? = some '\n' then readLines folded indent l column rest
    else match column with
      | none =>
        if isBreak c then
          readLines folded indent { l with lineBreak := [breakText c], emptyLines := [] } (some 0) rest
        else readLines folded indent { l with text := c :: l.text } none rest
      | some column =>
        if column < indent ∧ c = ' ' then readLines folded indent l (some (column + 1)) rest
        else if column < indent ∧ c = '\t' then none
        else if isBreak c then
          readLines folded indent { l with emptyLines := breakText c :: l.emptyLines } (some 0) rest
        else if column = indent then
          let l := l.startLine folded (isBlank c)
          readLines folded indent { l with text := c :: l.text } none rest
        else some (l, c :: rest)

/-- A block scalar behind its indicator, and what follows it; `indent` is the indentation of the
collection it stands in. -/
def readBlock (folded : Bool) (indent : Int) (s : List Char) : Option (String × List Char) := do
  let (head, rest) ← readBlockHead s
  let rest := skipComment (rest.dropWhile isBlank)
  if startsBreak rest then
    let rest := skipBreak rest
    let indentation ← match head.indentation with
      | some n => pure (max indent 0 + n).toNat
      | none => pure (max (max (← leadingIndentation 0 0 rest) (indent + 1).toNat) 1)
    let (lines, rest) ← readLines folded indentation {} (some 0) rest
    return (lines.result head.chomping, rest)
  else none

end Allowlist.Yaml
