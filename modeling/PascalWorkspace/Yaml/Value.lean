import PascalWorkspace.Yaml.Node

/-! The values of the nodes of a document. Collections refer to the nodes in them, so that a value
can hold itself. Nodes are taken level by level, which decides what is reported of several faults.
-/
namespace PascalWorkspace.Yaml

inductive Item where
  | node (id : NodeId)
  | pair (key value : NodeId)
  deriving DecidableEq, Repr

inductive Value where
  | scalar (s : Scalar)
  | sequence (items : List Item)
  | mapping (entries : List (Scalar × NodeId))
  | set (members : List Scalar)
  deriving Repr

namespace Document

/-- The text of a scalar, with room for so many nested calls. A mapping stands for the value of its
default key, which can be the mapping itself. -/
def scalarText (d : Document) : (room : Nat) → NodeId → Except Error Text.Wide
  | 0, _ => .error (.fault .tooDeep)
  | room + 1, id =>
    match (d.node id).content with
    | .scalar text => .ok text
    | .sequence _ => .error .malformed
    | .mapping pairs =>
      match pairs.find? fun p => (d.node p.1).tag == .default with
      | some p => scalarText d room p.2
      | none => .error .malformed

def isMerge (d : Document) (p : NodeId × NodeId) : Bool := (d.node p.1).tag == .merge

def pairsOf (d : Document) (id : NodeId) : List (NodeId × NodeId) :=
  match (d.node id).content with
  | .mapping pairs => pairs
  | _ => []

def setPairs (d : Document) (id : NodeId) (pairs : List (NodeId × NodeId)) : Document :=
  { d with nodes := d.nodes.modify id fun n => { n with content := .mapping pairs } }

/-- Takes the first pair out of a mapping that merges another in, and tells what it merges in. -/
def takeMerge (d : Document) (id : NodeId) : Option NodeId × Document :=
  let pairs := d.pairsOf id
  ((pairs.find? d.isMerge).map (·.2), d.setPairs id (pairs.eraseP d.isMerge))

/-- The default key of a mapping that is looked into is a text like any other. -/
def clearDefault (d : Document) (id : NodeId) : Document :=
  (d.pairsOf id).foldl (fun d p => if (d.node p.1).tag = .default
    then { d with nodes := d.nodes.modify p.1 fun n => { n with tag := .text } } else d) d

/-- Reads a scalar. A text that stands for a mapping does not do for a point in time. -/
def readScalar (d : Document) (room : Nat) (id : NodeId) : Except Error Scalar := do
  let text ← d.scalarText room id
  match (d.node id).tag, (d.node id).content with
  | .timestamp, .mapping _ => throw (.fault .notText)
  | tag, _ => Scalar.read tag text

end Document

/-- The values found so far and the collections still to be looked into. -/
structure Construction where
  document : Document
  values : Array (Option Value)
  pending : List NodeId

abbrev Construct := StateT Construction (Except Error)

namespace Construct

def isCollection : Tag → Bool
  | .sequence | .mapping | .set | .pairs => true
  | _ => false

def setValue (id : NodeId) (v : Value) : Construct Unit :=
  modify fun c => { c with values := c.values.setIfInBounds id (some v) }

/-- What a collection is until it has been looked into. -/
def emptyValue : Tag → Value
  | .mapping => .mapping []
  | .set => .set []
  | _ => .sequence []

/-- Gives a node its value, unless it has one. -/
def visit (room : Nat) (id : NodeId) : Construct Unit := do
  let c ← get
  let tag := (c.document.node id).tag
  if (c.values.getD id none).isSome then return ()
  if isCollection tag then
    setValue id (emptyValue tag)
    modify fun c => { c with pending := c.pending ++ [id] }
  else setValue id (.scalar (← c.document.readScalar room id))

/-- The value of a key, which must be a scalar. -/
def visitKey (room : Nat) (id : NodeId) : Construct Scalar := do
  visit room id
  match (← get).values.getD id none with
  | some (.scalar s) => return s
  | _ => throw .malformed

/-- A key that occurs again keeps its place and takes the later value. -/
def putEntry (entries : List (Scalar × NodeId)) (key : Scalar) (value : NodeId) :
    List (Scalar × NodeId) :=
  if entries.any (·.1.sameKey key) then
    entries.map fun e => if e.1.sameKey key then (e.1, value) else e
  else entries ++ [(key, value)]

def visitPairs (room : Nat) (entries : List (Scalar × NodeId)) : List (NodeId × NodeId) →
    Construct (List (Scalar × NodeId))
  | [] => return entries
  | (key, value) :: rest => do
    let k ← visitKey room key
    visit room value
    visitPairs room (putEntry entries k value) rest

/-- The one pair of an item of a sequence of pairs. -/
def visitItem (room : Nat) (id : NodeId) : Construct Item := do
  match ((← get).document.node id).content with
  | .mapping [(key, value)] =>
    visit room key
    visit room value
    return .pair key value
  | _ => throw .malformed

/-- The pairs of one mapping, or of several in a sequence, the last of which stands first. -/
def pairsMerged (flatten : NodeId → Construct Unit) (source : NodeId) :
    Construct (List (NodeId × NodeId)) := do
  let pairs (id : NodeId) : Construct (List (NodeId × NodeId)) := do
    flatten id
    return (← get).document.pairsOf id
  let d := (← get).document
  match (d.node source).content with
  | .mapping _ => pairs source
  | .sequence items =>
    let lists ← items.mapM fun item => do
      match (d.node item).content with
      | .mapping _ => pairs item
      | _ => throw .malformed
    return lists.reverse.flatten
  | .scalar _ => throw .malformed

/-- Puts the pairs that a mapping merges in in front of its own. A mapping that is merged into
itself on the way merges in there what it has not merged in before. -/
def flatten : (room : Nat) → NodeId → Construct Unit
  | 0, _ => throw (.fault .tooDeep)
  | room + 1, id => do
    let merges := (((← get).document.pairsOf id).filter (← get).document.isMerge).length
    let merged ← (List.replicate merges ()).mapM fun _ => do
      let (source?, document) := (← get).document.takeMerge id
      modify fun c => { c with document }
      match source? with
      | some source => pairsMerged (flatten room) source
      | none => return []
    modify fun c => { c with document :=
      (c.document.setPairs id (merged.flatten ++ c.document.pairsOf id)).clearDefault id }

/-- Looks into a collection. -/
def expand (room : Nat) (id : NodeId) : Construct Unit := do
  let d := (← get).document
  let n := d.node id
  match n.tag, n.content with
  | .sequence, .sequence items =>
    items.forM (visit room)
    setValue id (.sequence (items.map .node))
  | .pairs, .sequence items => setValue id (.sequence (← items.mapM (visitItem room)))
  | tag, .mapping _ =>
    if tag ≠ .mapping ∧ tag ≠ .set then throw .malformed
    flatten room id
    let entries ← visitPairs room [] ((← get).document.pairsOf id)
    setValue id (if tag = .set then .set (entries.map (·.1)) else .mapping entries)
  | _, _ => throw .malformed

def run (room : Nat) : Nat → Construct Unit
  | 0 => return ()
  | fuel + 1 => do
    match (← get).pending with
    | [] => return ()
    | id :: rest =>
      modify fun c => { c with pending := rest }
      expand room id
      run room fuel

end Construct

/-- A document with the values of all nodes that can be reached. -/
structure Loaded where
  values : Array (Option Value)
  root : NodeId

namespace Loaded

def value (l : Loaded) (id : NodeId) : Value := (l.values.getD id none).getD (.scalar .null)

def rootValue (l : Loaded) : Value := l.value l.root

end Loaded

/-- Whether a value counts as something rather than nothing. -/
def Value.isTrue : Value → Bool
  | .scalar s => s.isTrue
  | .sequence items => !items.isEmpty
  | .mapping entries => !entries.isEmpty
  | .set members => !members.isEmpty

/-- The node under a text key of a mapping. -/
def Value.entry? (v : Value) (key : String) : Option NodeId :=
  match v with
  | .mapping entries => (entries.find? (·.1 == .text (.plain key))).map (·.2)
  | _ => none

/-- The values of a document. -/
def Document.load (room : Nat) (d : Document) : Except Error Loaded := do
  let start : Construction := ⟨d, Array.replicate d.nodes.size none, []⟩
  let all : Construct Unit := do
    Construct.visit room d.root
    Construct.run room (d.nodes.size + 1)
  let (_, c) ← StateT.run all start
  return ⟨c.values, d.root⟩

namespace Loaded

/-- A value as it is shown inside a collection, with room for so many nested calls; one that holds
itself is cut short. -/
def describe (l : Loaded) : (room : Nat) → (outer : List NodeId) → NodeId → Except Fault String
  | 0, _, _ => .error .tooDeep
  | room + 1, outer, id =>
    match l.value id with
    | .scalar s => s.describe
    | .sequence items =>
      if outer.contains id then .ok "[...]"
      else do
        let texts ← items.mapM fun item =>
          match item with
          | .node i => describe l room (id :: outer) i
          | .pair k v =>
            -- A pair is shown by a call of its own.
            match room with
            | 0 => .error .tooDeep
            | below + 1 => do
              let key ← describe l below (id :: outer) k
              let value ← describe l below (id :: outer) v
              return "(" ++ key ++ ", " ++ value ++ ")"
        return "[" ++ ", ".intercalate texts ++ "]"
    | .mapping entries =>
      if outer.contains id then .ok "\x7b...\x7d"
      else do
        let texts ← entries.mapM fun entry => do
          let key ← entry.1.describe
          let value ← describe l room (id :: outer) entry.2
          return key ++ ": " ++ value
        return "\x7b" ++ ", ".intercalate texts ++ "\x7d"
    | .set members => do
      let texts ← members.mapM Scalar.describe
      return if texts.isEmpty then "set()" else "\x7b" ++ ", ".intercalate texts ++ "\x7d"

/-- The text of a value. -/
def text (l : Loaded) (room : Nat) (id : NodeId) : Except Fault Text.Wide :=
  match l.value id with
  | .scalar s => s.asText
  | _ => (l.describe room [] id).map .plain

/-- Whether an item of a sequence counts as something; a pair always does. -/
def isTrue (l : Loaded) : Item → Bool
  | .node id => (l.value id).isTrue
  | .pair .. => true

/-- The text of an item of a sequence. -/
def itemText (l : Loaded) (room : Nat) : Item → Except Fault Text.Wide
  | .node id => l.text room id
  | .pair key value => do
    let shownKey ← l.describe room [] key
    let shownValue ← l.describe room [] value
    return .plain ("(" ++ shownKey ++ ", " ++ shownValue ++ ")")

end Loaded

/-- Reads the document in a text, with room for so many nested calls; there may be none. -/
def load (room : Nat) (text : List Char) : Except Error (Option Loaded) := do
  match ← compose room text with
  | none => return none
  | some d => return some (← d.load room)

end PascalWorkspace.Yaml
