import PascalWorkspace.Xml.Doctype
import PascalWorkspace.Xml.Element

/-! The element tree of a document. Tags and attributes get the name space that their prefix stands
for where they are written. -/
namespace PascalWorkspace.Xml

/-- The name space of each prefix in force, the nearest first; the empty prefix is the default. -/
abbrev Bindings := List (Chars × Chars)

def standardHost : String := "//www.w3.org"

/-- The name of a standard name space: a place at the host of the standards. -/
def standardSpace (place : String) : Chars := s!"http:{standardHost}{place}".toList

def xmlSpace : Chars := standardSpace "/XML/1998/namespace"

def xmlnsSpace : Chars := standardSpace "/2000/xmlns/"

def xmlPrefix : Chars := ['x', 'm', 'l']

def xmlnsPrefix : Chars := ['x', 'm', 'l', 'n', 's']

/-- The prefix that an attribute declares, if it declares one. -/
def declaredPrefix (name : QName) : Option Chars :=
  match name.space with
  | none => if name.base = xmlnsPrefix then some [] else none
  | some space => if space = xmlnsPrefix then some name.base else none

/-- Reserved names stay bound to each other; only the default may be taken back. -/
def isAllowedBinding (declared uri : Chars) : Bool :=
  !(declared ≠ [] && uri.isEmpty) && declared != xmlnsPrefix
    && (declared == xmlPrefix) == (uri == xmlSpace) && uri != xmlnsSpace && !uri.contains '}'

def bind (scope : Bindings) (attributes : List (QName × Chars)) : Option Bindings :=
  attributes.foldlM (fun scope (name, uri) =>
    match declaredPrefix name with
    | none => some scope
    | some declared =>
      if isAllowedBinding declared uri then some ((declared, uri) :: scope) else none) scope

def spaceOf (scope : Bindings) (declared : Chars) : Option Chars :=
  if declared = xmlPrefix then some xmlSpace
  else match scope.lookup declared with
    | some [] => none
    | found => found

/-- A name with its name space in braces. An unknown prefix is an error. -/
def expandName (scope : Bindings) (useDefault : Bool) (name : QName) : Option Chars :=
  match name.space with
  | some declared => (spaceOf scope declared).map fun uri => '{' :: uri ++ '}' :: name.base
  | none =>
    if useDefault then
      match spaceOf scope [] with
      | some uri => some ('{' :: uri ++ '}' :: name.base)
      | none => some name.base
    else some name.base

/-- A start tag as written. -/
structure StartTag where
  name : QName
  attributes : List (QName × Chars)
  isEmpty : Bool

def takeAttributes : Nat → List (QName × Chars) → Chars →
    Option (List (QName × Chars) × Bool × Chars)
  | 0, _, _ => none
  | fuel + 1, reversed, cs =>
    match skipSpace cs with
    | '>' :: rest => some (reversed.reverse, false, rest)
    | '/' :: '>' :: rest => some (reversed.reverse, true, rest)
    | _ => do
      let (name, rest) ← takeQName (← needSpace cs)
      let rest ← drop? ['='] (skipSpace rest)
      let (value, rest) ← takeQuoted (skipSpace rest)
      takeAttributes fuel ((name, value) :: reversed) rest

/-- A start tag behind its opening angle bracket. -/
def takeStartTag (cs : Chars) : Option (StartTag × Chars) := do
  let (name, rest) ← takeQName cs
  let (attributes, isEmpty, rest) ← takeAttributes (rest.length + 1) [] rest
  return (⟨name, attributes, isEmpty⟩, rest)

/-- The attributes of an element with their values: those written, then those left to a default. -/
def attributesOf (d : Doctype) (tag : StartTag) : Option (List (QName × Chars)) := do
  let rules := d.rulesFor tag.name.text
  let written ← tag.attributes.mapM fun (name, raw) => do
    let isCdata := ((rules.find? (·.name == name)).map (·.isCdata)).getD true
    return (name, ← attributeValue d isCdata raw)
  if (written.map (·.1)).Nodup then
    let defaults := rules.filterMap fun rule =>
      if written.any (·.1 == rule.name) then none else rule.value.map (rule.name, ·)
    return written ++ defaults
  else none

/-- An element that is still open. -/
structure Frame where
  name : QName
  tag : Chars
  attributes : List (Chars × Chars)
  scope : Bindings
  /-- The finished children, the last one first. -/
  reversed : List Element

def Frame.toElement (f : Frame) : Element :=
  { tag := String.ofList f.tag
    attributes := f.attributes.map fun (name, value) => (String.ofList name, String.ofList value)
    children := f.reversed.reverse }

def openFrame (d : Doctype) (scope : Bindings) (tag : StartTag) : Option Frame := do
  let attributes ← attributesOf d tag
  let scope ← bind scope attributes
  let expanded ← (attributes.filter fun a => (declaredPrefix a.1).isNone).mapM
    fun (name, value) => do return (← expandName scope false name, value)
  if (expanded.map (·.1)).Nodup then
    return ⟨tag.name, ← expandName scope true tag.name, expanded, scope, []⟩
  else none

/-- Puts a finished element under the innermost open one. -/
def addChild (e : Element) : List Frame → List Frame
  | f :: outer => { f with reversed := e :: f.reversed } :: outer
  | [] => []

def scopeOf : List Frame → Bindings
  | f :: _ => f.scope
  | [] => []

/-- Reads content until the open elements are down to `floor`, or in the text of an entity until its
end. The stack holds the open elements, the innermost first, above one frame for the document. -/
def content (d : Doctype) (floor : Nat) (inEntity : Bool) :
    Nat → List Chars → List Frame → Chars → Option (List Frame × Chars)
  | _, _, stack, [] => if inEntity && stack.length == floor then some (stack, []) else none
  | 0, _, _, _ :: _ => none
  | fuel + 1, opened, stack, '<' :: '/' :: rest =>
    if stack.length ≤ floor then none
    else match stack with
      | f :: outer => do
        let rest ← drop? f.name.text rest
        let rest ← drop? ['>'] (skipSpace rest)
        let stack := addChild f.toElement outer
        if stack.length == floor && !inEntity then some (stack, rest)
        else content d floor inEntity fuel opened stack rest
      | [] => none
  | fuel + 1, opened, stack, '<' :: '!' :: '-' :: '-' :: rest => do
    content d floor inEntity fuel opened stack (← skipComment rest)
  | fuel + 1, opened, stack, '<' :: '!' :: rest => do
    let rest ← drop? "[CDATA[".toList rest
    let (_, rest) ← splitAt? [']', ']', '>'] rest
    content d floor inEntity fuel opened stack rest
  | fuel + 1, opened, stack, '<' :: '?' :: rest => do
    content d floor inEntity fuel opened stack (← skipInstruction rest)
  | fuel + 1, opened, stack, '<' :: rest => do
    let (tag, rest) ← takeStartTag rest
    let frame ← openFrame d (scopeOf stack) tag
    let stack := if tag.isEmpty then addChild frame.toElement stack else frame :: stack
    content d floor inEntity fuel opened stack rest
  | fuel + 1, opened, stack, '&' :: rest => do
    let (reference, rest) ← takeReference rest
    match reference with
    | .char _ => content d floor inEntity fuel opened stack rest
    | .entity name =>
      if (predefined name).isSome then content d floor inEntity fuel opened stack rest
      else match d.entity? name with
        | some (.internal text) =>
          if opened.contains name then none
          else do
            let (stack, _) ← content d stack.length true fuel (name :: opened) stack text
            content d floor inEntity fuel opened stack rest
        | _ => none
  | _ + 1, _, _, ']' :: ']' :: '>' :: _ => none
  | fuel + 1, opened, stack, _ :: rest => content d floor inEntity fuel opened stack rest

end PascalWorkspace.Xml
