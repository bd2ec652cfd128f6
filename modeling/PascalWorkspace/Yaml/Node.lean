import PascalWorkspace.Yaml.Scalar
import PascalWorkspace.Yaml.Scan

/-! The nodes of a YAML document. Every node has a number, under which it can occur in several
places or inside itself. -/
namespace PascalWorkspace.Yaml

abbrev NodeId := Nat

inductive Content where
  | scalar (text : Text.Wide)
  | sequence (items : List NodeId)
  | mapping (pairs : List (NodeId × NodeId))
  deriving DecidableEq, Repr

structure Node where
  tag : Tag
  content : Content
  deriving DecidableEq, Repr

structure Document where
  nodes : Array Node
  root : NodeId
  deriving Repr

namespace Document

def node (d : Document) (id : NodeId) : Node := d.nodes.getD id ⟨.unknown, .scalar (.plain "")⟩

end Document

/-- A document in the making. -/
structure Composition where
  tokens : List Token
  nodes : Array Node := #[]
  anchors : List (String × NodeId) := []
  /-- What the handles of tags stand for. -/
  handles : List (String × String) := [("!", "!"), ("!!", Tag.standardStart)]

abbrev Compose := StateT Composition (Except Error)

namespace Compose

def peek : Compose Token := return (← get).tokens.headD (.broken .malformed)

def advance : Compose Unit := modify fun c => { c with tokens := c.tokens.tail }

/-- Fails at a token that cannot stand here. -/
def unexpected {α : Type} : Compose α := do
  match ← peek with
  | .broken e => throw e
  | _ => throw .malformed

def accept (token : Token) : Compose Bool := do
  if (← peek) = token then
    advance
    return true
  else return false

def addNode (n : Node) : Compose NodeId := do
  let id := (← get).nodes.size
  modify fun c => { c with nodes := c.nodes.push n }
  return id

/-- A scalar that is left out. -/
def emptyScalar : Compose NodeId := addNode ⟨.null, .scalar (.plain "")⟩

def setContent (id : NodeId) (content : Content) : Compose Unit :=
  modify fun c => { c with nodes := c.nodes.modify id fun n => { n with content } }

/-- What can stand in front of a node. -/
structure Properties where
  anchor : Option String := none
  /-- The full name of the tag. -/
  tag : Option String := none

def fullTag (handle : Option String) (suffix : String) : Compose String := do
  match handle with
  | none => return suffix
  | some handle =>
    match (← get).handles.lookup handle with
    | some start => return start ++ suffix
    | none => throw .malformed

def anchor? : Compose (Option String) := do
  match ← peek with
  | .anchor name => advance; return some name
  | _ => return none

def tag? : Compose (Option String) := do
  match ← peek with
  | .tag handle suffix => advance; return some (← fullTag handle suffix)
  | _ => return none

/-- An anchor and a tag, in either order. -/
def properties : Compose Properties := do
  match ← anchor? with
  | some anchor => return ⟨some anchor, ← tag?⟩
  | none =>
    let tag ← tag?
    if tag.isSome then return ⟨← anchor?, tag⟩ else return ⟨none, none⟩

/-- The tag of a node, from its form unless it is given. A lone exclamation mark gives none. -/
def tagOf (given : Option String) (form : Tag) : Tag :=
  match given with
  | none => form
  | some name => if name = "!" then form else Tag.ofName name

/-- The form of a scalar counts if it is plain or its tag is a lone exclamation mark. -/
def scalarForm (given : Option String) (text : Text.Wide) (plain : Bool) : Tag :=
  if given = some "!" ∨ given = none ∧ plain then Form.tag text.signs else .text

/-- Adds a node and gives it a name, which must be new. -/
def addNamed (p : Properties) (n : Node) : Compose NodeId := do
  let id ← addNode n
  match p.anchor with
  | none => return id
  | some name =>
    if ((← get).anchors.lookup name).isSome then throw .malformed
    modify fun c => { c with anchors := (name, id) :: c.anchors }
    return id

def addScalar (p : Properties) (text : Text.Wide) (plain : Bool) : Compose NodeId :=
  addNamed p ⟨tagOf p.tag (scalarForm p.tag text plain), .scalar text⟩

def endsPair (t : Token) : Bool := t == .key || t == .value || t == .blockEnd

def endsItem (t : Token) : Bool := t == .blockEntry || t == .blockEnd

/-- The number of calls that each level of a document takes. -/
def callsPerLevel : Nat := 2

/-- Fails where there is no room left for the calls of one more level. -/
def enter (room : Nat) : Compose Unit :=
  if room < callsPerLevel then throw (.fault .tooDeep) else pure ()

mutual

/-- A node, with room for so many nested calls. Block collections can stand outside of brackets
only; the entries of a sequence that is the value of a key need not be indented. -/
def node : Nat → (room : Nat) → (block entries : Bool) → Compose NodeId
  | 0, _, _, _ => throw .malformed
  | fuel + 1, room, block, entries => do
    enter room
    let below := room - callsPerLevel
    match ← peek with
    | .alias name =>
      advance
      match (← get).anchors.lookup name with
      | some id => return id
      | none => throw .malformed
    | _ =>
      let p ← properties
      let sequence : Node := ⟨tagOf p.tag .sequence, .sequence []⟩
      let mapping : Node := ⟨tagOf p.tag .mapping, .mapping []⟩
      match ← peek with
      | .scalar text plain =>
        advance
        addScalar p text plain
      | .flowSequenceStart =>
        advance
        let id ← addNamed p sequence
        setContent id (.sequence (← flowItems fuel below true))
        return id
      | .flowMappingStart =>
        advance
        let id ← addNamed p mapping
        setContent id (.mapping (← flowPairs fuel below true))
        return id
      | token =>
        if entries ∧ token = .blockEntry then
          let id ← addNamed p sequence
          setContent id (.sequence (← openEntries fuel below))
          return id
        else if block ∧ token = .blockSequenceStart then
          advance
          let id ← addNamed p sequence
          setContent id (.sequence (← blockEntries fuel below))
          return id
        else if block ∧ token = .blockMappingStart then
          advance
          let id ← addNamed p mapping
          setContent id (.mapping (← blockPairs fuel below))
          return id
        else if p.anchor.isSome ∨ p.tag.isSome then addScalar p "" true
        else unexpected

/-- A node, or the empty scalar in front of a token that ends it. -/
def nodeUnless : Nat → (room : Nat) → (ends : Token → Bool) → (block entries : Bool) →
    Compose NodeId
  | 0, _, _, _, _ => throw .malformed
  | fuel + 1, room, ends, block, entries => do
    if ends (← peek) then
      enter room
      emptyScalar
    else node fuel room block entries

/-- The entries of an indented sequence. -/
def blockEntries : Nat → (room : Nat) → Compose (List NodeId)
  | 0, _ => throw .malformed
  | fuel + 1, room => do
    if ← accept .blockEntry then
      let item ← nodeUnless fuel room endsItem true false
      return item :: (← blockEntries fuel room)
    else if ← accept .blockEnd then return []
    else unexpected

/-- The entries of a sequence that is not indented. -/
def openEntries : Nat → (room : Nat) → Compose (List NodeId)
  | 0, _ => throw .malformed
  | fuel + 1, room => do
    if ← accept .blockEntry then
      let item ← nodeUnless fuel room (fun t => endsItem t || endsPair t) true false
      return item :: (← openEntries fuel room)
    else return []

def blockPairs : Nat → (room : Nat) → Compose (List (NodeId × NodeId))
  | 0, _ => throw .malformed
  | fuel + 1, room => do
    if ← accept .key then
      let key ← nodeUnless fuel room endsPair true true
      let value ← if ← accept .value then nodeUnless fuel room endsPair true true else emptyScalar
      return (key, value) :: (← blockPairs fuel room)
    else if ← accept .blockEnd then return []
    else unexpected

/-- A pair in brackets, behind the token of its key. -/
def flowPair : Nat → (room : Nat) → (closing : Token) → Compose (NodeId × NodeId)
  | 0, _, _ => throw .malformed
  | fuel + 1, room, closing => do
    let ends (t : Token) : Bool := t == .flowEntry || t == closing
    let key ← nodeUnless fuel room (fun t => t == .value || ends t) false false
    let value ← if ← accept .value then nodeUnless fuel room ends false false else emptyScalar
    return (key, value)

/-- The items up to a square bracket. A pair stands for a mapping of its own. -/
def flowItems : Nat → (room : Nat) → (first : Bool) → Compose (List NodeId)
  | 0, _, _ => throw .malformed
  | fuel + 1, room, first => do
    if ← accept .flowSequenceEnd then return []
    if !first then
      if !(← accept .flowEntry) then unexpected
    if ← accept .key then
      enter room
      let pair ← flowPair fuel (room - callsPerLevel) .flowSequenceEnd
      let id ← addNode ⟨.mapping, .mapping [pair]⟩
      return id :: (← flowItems fuel room false)
    else if ← accept .flowSequenceEnd then return []
    else
      let item ← node fuel room false false
      return item :: (← flowItems fuel room false)

/-- The pairs up to a brace. A node alone is a key without a value. -/
def flowPairs : Nat → (room : Nat) → (first : Bool) → Compose (List (NodeId × NodeId))
  | 0, _, _ => throw .malformed
  | fuel + 1, room, first => do
    if ← accept .flowMappingEnd then return []
    if !first then
      if !(← accept .flowEntry) then unexpected
    if ← accept .key then
      let pair ← flowPair fuel room .flowMappingEnd
      return pair :: (← flowPairs fuel room false)
    else if ← accept .flowMappingEnd then return []
    else
      let key ← node fuel room false false
      let value ← emptyScalar
      return (key, value) :: (← flowPairs fuel room false)

end

def isDirective : Token → Bool
  | .versionDirective _ => true
  | .tagDirective .. => true
  | .otherDirective => true
  | _ => false

/-- The version of YAML that is understood. -/
def majorVersion : Nat := 1

/-- The directives in front of a document: one version at most, and each handle once. -/
def directives : Nat → (versioned : Bool) → (handles : List (String × String)) →
    Compose (List (String × String))
  | 0, _, handles => return handles
  | fuel + 1, versioned, handles => do
    match ← peek with
    | .versionDirective major =>
      if versioned ∨ major ≠ majorVersion then throw .malformed
      advance
      directives fuel true handles
    | .tagDirective handle meaning =>
      if (handles.lookup handle).isSome then throw .malformed
      advance
      directives fuel versioned ((handle, meaning) :: handles)
    | .otherDirective =>
      advance
      directives fuel versioned handles
    | _ => return handles

def endsContent (t : Token) : Bool :=
  isDirective t || t == .documentStart || t == .documentEnd || t == .streamEnd

/-- The root of a document with a start of its own. -/
def explicitRoot (fuel room : Nat) : Compose NodeId := do
  let handles ← directives fuel false []
  modify fun c => { c with handles := handles ++ c.handles }
  if !(← accept .documentStart) then unexpected
  nodeUnless fuel room endsContent true false

def skipDocumentEnds : Nat → Compose Unit
  | 0 => return ()
  | fuel + 1 => do
    if ← accept .documentEnd then skipDocumentEnds fuel

/-- The root of the only document, if there is one. -/
def single (fuel room : Nat) : Compose (Option NodeId) := do
  let first ← peek
  if first = .streamEnd then return none
  let root ← if isDirective first ∨ first = .documentStart then explicitRoot fuel room
    else node fuel room true false
  skipDocumentEnds fuel
  if ← accept .streamEnd then return some root else unexpected

end Compose

/-- The document that a text holds, with room for so many nested calls. A text without a document is
empty; there must not be two. -/
def compose (room : Nat) (text : List Char) : Except Error (Option Document) := do
  let found := tokens text
  let (root, c) ← (Compose.single (3 * found.length + 3) room).run { tokens := found }
  return root.map fun root => { nodes := c.nodes, root }

end PascalWorkspace.Yaml
