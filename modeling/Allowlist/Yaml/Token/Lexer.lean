import Allowlist.Yaml.Token

/-! # Reading the tokens of YAML

A text becomes tokens from left to right, with one thing that is only known later: whether what has
just been read is a key. So the place of a possible key is kept for each level of brackets, and the
tokens that mark a key go in there once its colon is met. A key has to be on one line with its
colon and within 1024 characters of it. -/

namespace Allowlist.Yaml

/-- The place of a possible key: the number of tokens before it and its position. A key that is
required is the only thing that can stand there. -/
structure KeyPlace where
  tokens : Nat
  index : Nat
  line : Nat
  column : Nat
  required : Bool

/-- What has been read of a text. -/
structure Lexer where
  cursor : Cursor
  /-- The tokens so far, last one first. -/
  tokens : List Token := []
  /-- The place of a possible key outside of brackets. -/
  blockKey : Option KeyPlace := none
  /-- The places of possible keys in brackets, innermost first. -/
  flowKeys : List (Option KeyPlace) := []
  /-- The column of the innermost block. -/
  indent : Int := -1
  /-- The columns of the blocks around it, innermost first. -/
  outer : List Int := []
  /-- Whether a key may start here. -/
  keyAllowed : Bool := true

namespace Lexer

def inFlow (l : Lexer) : Bool := !l.flowKeys.isEmpty

def emit (t : Token) (l : Lexer) : Lexer := { l with tokens := t :: l.tokens }

/-- Adds a token behind the first `count`. -/
def emitAt (count : Nat) (t : Token) (l : Lexer) : Lexer :=
  let later := l.tokens.length - count
  { l with tokens := l.tokens.take later ++ t :: l.tokens.drop later }

def moveTo (rest : List Char) (l : Lexer) : Lexer := { l with cursor := l.cursor.moveTo rest }

def skip (n : Nat) (l : Lexer) : Lexer := { l with cursor := l.cursor.skip n }

/-- The place of a possible key at the innermost level. -/
def possibleKey (l : Lexer) : Option KeyPlace :=
  match l.flowKeys with
  | key :: _ => key
  | [] => l.blockKey

def setPossibleKey (key : Option KeyPlace) (l : Lexer) : Lexer :=
  match l.flowKeys with
  | _ :: outer => { l with flowKeys := key :: outer }
  | [] => { l with blockKey := key }

/-- Gives up a possible key, unless it is required. -/
def dropKey (l : Lexer) : Option Lexer :=
  if l.possibleKey.any KeyPlace.required then none else some (l.setPossibleKey none)

/-- Keeps this place as one of a possible key. -/
def saveKey (l : Lexer) : Option Lexer :=
  if l.keyAllowed then do
    let c := l.cursor
    let key : KeyPlace := ⟨l.tokens.length, c.index, c.line, c.column, !l.inFlow && l.indent = c.column⟩
    return (← l.dropKey).setPossibleKey (some key)
  else some l

/-- Whether a possible key can no longer be one. -/
def isStale (c : Cursor) (key : KeyPlace) : Bool :=
  key.line < c.line || key.index + 1024 < c.index

/-- Gives up the keys that can no longer be ones, unless one is required. -/
def dropStaleKeys (l : Lexer) : Option Lexer :=
  let stale (key : Option KeyPlace) : Bool := key.any (isStale l.cursor)
  if (l.blockKey :: l.flowKeys).any fun key => stale key && key.any KeyPlace.required then none
  else
    let fresh (key : Option KeyPlace) : Option KeyPlace := if stale key then none else key
    some { l with blockKey := fresh l.blockKey, flowKeys := l.flowKeys.map fresh }

/-- Starts a block at a column right of the innermost one; `count` tokens come before it. -/
def startBlock (column : Nat) (count : Nat) (t : Token) (l : Lexer) : Lexer :=
  if !l.inFlow ∧ l.indent < column then
    { l.emitAt count t with indent := column, outer := l.indent :: l.outer }
  else l

/-- Ends blocks, innermost first, that are right of a column. -/
def endBlocks (column : Int) (indent : Int) : (outer : List Int) → Int × List Int × Nat
  | [] => (indent, [], 0)
  | next :: outer =>
    if column < indent then
      let (indent, outer, ended) := endBlocks column next outer
      (indent, outer, ended + 1)
    else (indent, next :: outer, 0)

def endBlocksAt (column : Int) (l : Lexer) : Lexer :=
  if l.inFlow then l
  else
    let (indent, outer, ended) := endBlocks column l.indent l.outer
    { l with indent := indent, outer := outer, tokens := List.replicate ended .blockEnd ++ l.tokens }

/-- The text behind blanks, comments and line breaks, and whether a key may start there. A tab does
not count as a blank where a key may start. -/
def skipGap (inFlow keyAllowed inComment : Bool) : List Char → Bool × List Char
  | [] => (keyAllowed, [])
  | c :: rest =>
    if isBreak c then skipGap inFlow (keyAllowed || !inFlow) false rest
    else if inComment then skipGap inFlow keyAllowed true rest
    else if c = ' ' ∨ (c = '\t' ∧ (inFlow ∨ !keyAllowed)) then skipGap inFlow keyAllowed false rest
    else if c = '#' then skipGap inFlow keyAllowed true rest
    else (keyAllowed, c :: rest)

/-- Moves on to the next token. A byte order mark may start the text. -/
def toNextToken (l : Lexer) : Option Lexer :=
  let start := match l.cursor.rest with
    | '\ufeff' :: rest => if l.cursor.index = 0 then rest else l.cursor.rest
    | s => s
  let (keyAllowed, rest) := skipGap l.inFlow l.keyAllowed false start
  let l := { l.moveTo rest with keyAllowed := keyAllowed }
  (l.dropStaleKeys).map fun l => l.endBlocksAt l.cursor.column

/-- Ends all blocks and gives up a possible key, before a document starts or ends. -/
def leaveBlocks (l : Lexer) : Option Lexer :=
  ((l.endBlocksAt (-1)).dropKey).map ({ · with keyAllowed := false })

def readDirective (l : Lexer) : Option Lexer := do
  let l ← l.leaveBlocks
  let (directive, rest) ← Yaml.readDirective (l.cursor.rest.drop 1)
  return (l.emit (.directive directive)).moveTo rest

def readDocumentMark (t : Token) (l : Lexer) : Option Lexer :=
  l.leaveBlocks.map fun l => (l.emit t).skip 3

def readOpening (t : Token) (l : Lexer) : Option Lexer :=
  l.saveKey.map fun l =>
    { (l.emit t).skip 1 with flowKeys := none :: l.flowKeys, keyAllowed := true }

def readClosing (t : Token) (l : Lexer) : Option Lexer :=
  l.dropKey.map fun l =>
    { (l.emit t).skip 1 with flowKeys := l.flowKeys.tail, keyAllowed := false }

def readComma (l : Lexer) : Option Lexer :=
  l.dropKey.map fun l => { (l.emit .flowEntry).skip 1 with keyAllowed := true }

/-- Starts a block here unless in brackets; refused where no key may start. -/
def startBlockHere (t : Token) (l : Lexer) : Option Lexer :=
  if l.inFlow then some l
  else if l.keyAllowed then some (l.startBlock l.cursor.column l.tokens.length t)
  else none

def readEntry (l : Lexer) : Option Lexer := do
  let l ← (← l.startBlockHere .blockSequenceStart).dropKey
  return { (l.emit .blockEntry).skip 1 with keyAllowed := true }

def readKey (l : Lexer) : Option Lexer := do
  let l ← (← l.startBlockHere .blockMappingStart).dropKey
  return { (l.emit .key).skip 1 with keyAllowed := !l.inFlow }

/-- Reads the mark of a value, which makes a key of what is before it, if that can be one. -/
def readValue (l : Lexer) : Option Lexer :=
  match l.possibleKey with
  | some key =>
    let l := (l.emitAt key.tokens .key).startBlock key.column key.tokens .blockMappingStart
    some { ((l.setPossibleKey none).emit .value).skip 1 with keyAllowed := false }
  | none => do
    let l ← l.startBlockHere .blockMappingStart
    return { (l.emit .value).skip 1 with keyAllowed := !l.inFlow }

def readContent (read : List Char → Option (Token × List Char)) (l : Lexer) : Option Lexer := do
  let l ← l.saveKey
  let (t, rest) ← read l.cursor.rest
  return { (l.emit t).moveTo rest with keyAllowed := false }

def readBlockScalar (style : Style) (l : Lexer) : Option Lexer := do
  let l ← l.dropKey
  let (text, rest) ← readBlock (style = .folded) l.indent (l.cursor.rest.drop 1)
  return { (l.emit (.scalar style text)).moveTo rest with keyAllowed := true }

def readPlainScalar (l : Lexer) : Option Lexer := do
  let l ← l.saveKey
  let (f, rest) ← readPlain l.inFlow (l.indent + 1) {} false l.cursor.column l.cursor.rest
  return { (l.emit (.scalar .plain f.result)).moveTo rest with keyAllowed := f.breaks.isSome }

def readToken (l : Lexer) : Option Lexer :=
  let s := l.cursor.rest
  let next := s.drop 1
  let atStart := l.cursor.column = 0
  if atStart ∧ s.head? = some '%' then l.readDirective
  else if atStart ∧ startsMark '-' s then l.readDocumentMark .documentStart
  else if atStart ∧ startsMark '.' s then l.readDocumentMark .documentEnd
  else match s.head? with
    | some '[' => l.readOpening .flowSequenceStart
    | some '\x7b' => l.readOpening .flowMappingStart
    | some ']' => l.readClosing .flowSequenceEnd
    | some '\x7d' => l.readClosing .flowMappingEnd
    | some ',' => l.readComma
    | some '*' =>
      l.readContent fun s => (readAnchor (s.drop 1)).map fun (name, rest) => (.alias name, rest)
    | some '&' =>
      l.readContent fun s => (readAnchor (s.drop 1)).map fun (name, rest) => (.anchor name, rest)
    | some '!' => l.readContent fun s => (readTag l.inFlow s).map fun (t, rest) => (.tag t, rest)
    | some '\'' =>
      l.readContent fun s => (readQuoted '\'' {} .none false (s.drop 1)).map fun (text, rest) =>
        (.scalar .singleQuoted text, rest)
    | some '"' =>
      l.readContent fun s => (readQuoted '"' {} .none false (s.drop 1)).map fun (text, rest) =>
        (.scalar .doubleQuoted text, rest)
    | some c =>
      if c = '-' ∧ startsBlank next then l.readEntry
      else if c = '?' ∧ (l.inFlow ∨ startsBlank next) then l.readKey
      else if c = ':' ∧ (l.inFlow ∨ startsBlank next) then l.readValue
      else if c = '|' ∧ !l.inFlow then l.readBlockScalar .literal
      else if c = '>' ∧ !l.inFlow then l.readBlockScalar .folded
      else if startsPlain l.inFlow s then l.readPlainScalar
      else none
    | none => none

/-- All tokens of the text. Each one takes up some of it. -/
def readAll (l : Lexer) : Option (List Token) :=
  match l.toNextToken with
  | none => none
  | some next =>
    if next.cursor.rest = [] then
      next.leaveBlocks.map fun l => l.tokens.reverse
    else
      match next.readToken with
      | none => none
      | some after =>
        if after.cursor.rest.length < l.cursor.rest.length then after.readAll else none
termination_by l.cursor.rest.length

end Lexer

/-- The tokens of a text, if it can be read to its end. -/
def tokens? (s : List Char) : Option (List Token) :=
  if s.all isPrintable then Lexer.readAll { cursor := ⟨s, 0, 0, 0⟩ } else none

end Allowlist.Yaml
