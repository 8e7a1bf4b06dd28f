import Allowlist.Yaml.Node
import Allowlist.Yaml.Token.Lexer

/-! # Reading a document of YAML

The tokens of a text that holds one document, or nothing, as a tree. Where a node may be left out
it is an empty scalar. -/

namespace Allowlist.Yaml

/-- The anchors so far: the slots of names, the latest place of each slot, and the nodes at
places. -/
structure Anchors where
  names : List (String × Nat) := []
  slots : List (Nat × Nat) := []
  places : Nat := 0
  nodes : List (Nat × Node) := []

namespace Anchors

def nameCount (a : Anchors) : Nat := (a.names.map Prod.fst).eraseDups.length

/-- Sets an anchor at a new place. -/
def set (name : String) (a : Anchors) : Anchors :=
  let slot := a.nameCount
  { a with names := (name, slot) :: a.names, slots := (slot, a.places) :: a.slots,
           places := a.places + 1 }

def targets (a : Anchors) : List (Nat × Node) :=
  a.slots.filterMap fun (slot, place) => (a.nodes.lookup place).map (slot, ·)

end Anchors

/-- The tokens to come, and the anchors so far. -/
structure Position where
  tokens : List Token
  anchors : Anchors := {}

/-- Reads a part of a document. -/
abbrev Read := StateT Position Option

namespace Read

def refuse {α : Type} : Read α := fun _ => none

def peek : Read (Option Token) := return (← get).tokens.head?

def skip : Read Unit := modify fun p => { p with tokens := p.tokens.tail }

/-- Passes over this token. -/
def expect (t : Token) : Read Unit := do
  if (← peek) = some t then skip else refuse

def comes (ts : List Token) : Read Bool := return (← peek).any ts.contains

def anchor? : Read (Option String) := do
  match ← peek with
  | some (.anchor name) =>
    skip
    return some name
  | _ => return none

def tag? : Read (Option Tag) := do
  match ← peek with
  | some (.tag t) =>
    skip
    return some t
  | _ => return none

/-- The text of a tag, whose handle must stand for something. -/
def resolve (handles : List (String × String)) (t : Tag) : Read String :=
  if t.handle.isEmpty then return t.suffix
  else match handles.lookup t.handle with
    | some stands => return stands ++ t.suffix
    | none => refuse

/-- The anchor and the tag of a node, in either order. -/
def properties (handles : List (String × String)) : Read (Option String × Option String) := do
  let anchor ← anchor?
  let tag ← tag?
  let anchor ← if anchor.isSome then pure anchor else anchor?
  return (anchor, ← tag.mapM (resolve handles))

/-- Sets an anchor and gives its place. -/
def setAnchor (name : String) : Read Nat := do
  let p ← get
  set { p with anchors := p.anchors.set name }
  return p.anchors.places

/-- The alias of a name, which must be known. -/
def aliasOf (name : String) : Read Node := do
  match (← get).anchors.names.lookup name with
  | some slot => return .alias slot
  | none => refuse

def keep (place : Nat) (n : Node) : Read Unit :=
  modify fun p => { p with anchors := { p.anchors with nodes := (place, n) :: p.anchors.nodes } }

mutual

/-- A node. Blocks are allowed if `block` is set, and a sequence that is not set off by indentation
if `bare` is. -/
def node (handles : List (String × String)) (block bare : Bool) : (fuel : Nat) → Read Node
  | 0 => refuse
  | fuel + 1 => do
    match ← peek with
    | some (.alias name) =>
      skip
      aliasOf name
    | _ =>
      let (anchor, tag) ← properties handles
      let place ← anchor.mapM setAnchor
      let n ← content handles block bare anchor.isSome tag fuel
      if let some place := place then keep place n
      return n

/-- A node behind its anchor and tag; where there is either the rest may be left out. -/
def content (handles : List (String × String)) (block bare anchored : Bool)
    (tag : Option String) : (fuel : Nat) → Read Node
  | 0 => refuse
  | fuel + 1 => do
    let next ← peek
    if bare ∧ next = some .blockEntry then return .sequence (← bareItems handles fuel)
    else match next with
      | some (.scalar style text) =>
        skip
        return .scalar (tag.filter (· ≠ "!")) style text
      | some .flowSequenceStart =>
        skip
        return .sequence (← flowItems handles true fuel)
      | some .flowMappingStart =>
        skip
        return .mapping (← flowEntries handles true fuel)
      | some .blockSequenceStart =>
        if block then
          skip
          return .sequence (← blockItems handles fuel)
        else refuse
      | some .blockMappingStart =>
        if block then
          skip
          return .mapping (← blockEntries handles fuel)
        else refuse
      | _ => if anchored || tag.isSome then return .scalar tag .plain "" else refuse

/-- A node that is left out if one of these tokens comes next. -/
def nodeUnless (handles : List (String × String)) (block bare : Bool) (ends : List Token) :
    (fuel : Nat) → Read Node
  | 0 => refuse
  | fuel + 1 => do
    if ← comes ends then return .empty else node handles block bare fuel

def blockItems (handles : List (String × String)) : (fuel : Nat) → Read (List Node)
  | 0 => refuse
  | fuel + 1 => do
    if ← comes [.blockEnd] then
      skip
      return []
    else
      expect .blockEntry
      let v ← nodeUnless handles true false [.blockEntry, .blockEnd] fuel
      return v :: (← blockItems handles fuel)

/-- The items of a sequence that is not set off by indentation. -/
def bareItems (handles : List (String × String)) : (fuel : Nat) → Read (List Node)
  | 0 => refuse
  | fuel + 1 => do
    if ← comes [.blockEntry] then
      skip
      let v ← nodeUnless handles true false [.blockEntry, .key, .value, .blockEnd] fuel
      return v :: (← bareItems handles fuel)
    else return []

def blockEntries (handles : List (String × String)) : (fuel : Nat) → Read (List (Node × Node))
  | 0 => refuse
  | fuel + 1 => do
    if ← comes [.blockEnd] then
      skip
      return []
    else
      expect .key
      let k ← nodeUnless handles true true [.key, .value, .blockEnd] fuel
      let v ← if ← comes [.value] then
          skip
          nodeUnless handles true true [.key, .value, .blockEnd] fuel
        else pure .empty
      return (k, v) :: (← blockEntries handles fuel)

def flowItems (handles : List (String × String)) (first : Bool) : (fuel : Nat) → Read (List Node)
  | 0 => refuse
  | fuel + 1 => do
    if !first && !(← comes [.flowSequenceEnd]) then expect .flowEntry
    if ← comes [.flowSequenceEnd] then
      skip
      return []
    else if ← comes [.key] then
      skip
      let entry ← flowPair handles fuel
      return .mapping [entry] :: (← flowItems handles false fuel)
    else
      let v ← node handles false false fuel
      return v :: (← flowItems handles false fuel)

/-- A single entry of a mapping that stands in a sequence in brackets. A key that is left out takes
the token after it with it. -/
def flowPair (handles : List (String × String)) : (fuel : Nat) → Read (Node × Node)
  | 0 => refuse
  | fuel + 1 => do
    let k ← if ← comes [.value, .flowEntry, .flowSequenceEnd] then
        skip
        pure .empty
      else node handles false false fuel
    let v ← if ← comes [.value] then
        skip
        nodeUnless handles false false [.flowEntry, .flowSequenceEnd] fuel
      else pure .empty
    return (k, v)

def flowEntries (handles : List (String × String)) (first : Bool) :
    (fuel : Nat) → Read (List (Node × Node))
  | 0 => refuse
  | fuel + 1 => do
    if !first && !(← comes [.flowMappingEnd]) then expect .flowEntry
    if ← comes [.flowMappingEnd] then
      skip
      return []
    else if ← comes [.key] then
      skip
      let k ← nodeUnless handles false false [.value, .flowEntry, .flowMappingEnd] fuel
      let v ← if ← comes [.value] then
          skip
          nodeUnless handles false false [.flowEntry, .flowMappingEnd] fuel
        else pure .empty
      return (k, v) :: (← flowEntries handles false fuel)
    else
      let k ← node handles false false fuel
      return (k, .empty) :: (← flowEntries handles false fuel)

end

/-- What handles stand for where no directive says otherwise. -/
def standardHandles : List (String × String) := [("!", "!"), ("!!", "tag:yaml.org,2002:")]

/-- The directives a text starts with, and the tokens behind them. -/
def cutDirectives : List Token → List Directive × List Token
  | .directive d :: rest =>
    let (ds, after) := cutDirectives rest
    (d :: ds, after)
  | rest => ([], rest)

/-- The handles of directives, which must be of a known version and not repeat each other. -/
def handlesOf? (versioned : Bool) (handles : List (String × String)) :
    List Directive → Option (List (String × String))
  | [] => some (handles ++ standardHandles)
  | .version major minor :: rest =>
    if versioned ∨ major ≠ 1 ∨ (minor ≠ 1 ∧ minor ≠ 2) then none else handlesOf? true handles rest
  | .tag handle stands :: rest =>
    if (handles.lookup handle).isSome then none
    else handlesOf? versioned ((handle, stands) :: handles) rest

/-- Whether a node cannot start with this token because a document starts or ends there. -/
def isDocumentToken : Token → Bool
  | .directive _ => true
  | .documentStart => true
  | .documentEnd => true
  | _ => false

/-- The node of a document. Behind the mark of its start it may be left out. -/
def documentNode (handles : List (String × String)) (marked : Bool) : Read Node := do
  let tokens := (← get).tokens
  if marked ∧ tokens.head?.all isDocumentToken then return .empty
  else node handles true false (4 * tokens.length + 4)

end Read

/-- The document of tokens, unless there is more than one. -/
def Document.ofTokens? (tokens : List Token) : Option Document := do
  if tokens = [] then return ⟨none, []⟩
  let (directives, content) := Read.cutDirectives tokens
  let handles ← Read.handlesOf? false [] directives
  let (marked, content) ← match content with
    | .documentStart :: rest => some (true, rest)
    | _ => if directives = [] then some (false, content) else none
  let (root, after) ← (Read.documentNode handles marked).run { tokens := content }
  if after.tokens.all (· = .documentEnd) then some ⟨some root, after.anchors.targets⟩ else none

def Document.parse? (s : String) : Option Document :=
  (tokens? s.toList).bind Document.ofTokens?

end Allowlist.Yaml
