import PascalWorkspace.Yaml.Properties

/-! Cutting a YAML text into tokens. Indentation becomes tokens that open and close collections. A
key without an indicator of its own is recognised by the colon behind it: every token that may begin
such a key is remembered until then, and the tokens of the key are put in front of it afterwards. -/
namespace PascalWorkspace.Yaml

/-- A token that may turn out to begin a key. -/
structure PossibleKey where
  /-- The number of tokens in front of it. -/
  position : Nat
  /-- Whether nothing but a key can stand here. -/
  required : Bool
  place : Cursor

structure Scan where
  place : Cursor
  tokens : Array Token := #[]
  /-- The columns of the block collections that are open, innermost first. -/
  indents : List Nat := []
  /-- The number of brackets that are open. -/
  flowLevel : Nat := 0
  allowsKey : Bool := true
  /-- At most one possible key for each flow level. -/
  possibleKeys : List (Nat × PossibleKey) := []

namespace Scan

/-- How far a key can reach. -/
def maxKeyLength : Nat := 1024

def inFlow (s : Scan) : Bool := s.flowLevel != 0

/-- The column of the innermost block collection. -/
def indent (s : Scan) : Int := (s.indents.head?.map Int.ofNat).getD (-1)

def emit (s : Scan) (token : Token) : Scan := { s with tokens := s.tokens.push token }

/-- Passes over a number of characters and adds a token. -/
def take (s : Scan) (length : Nat) (token : Token) : Scan :=
  { s with place := s.place.skip length, tokens := s.tokens.push token }

def insertAt (s : Scan) (position : Nat) (tokens : Array Token) : Scan :=
  { s with tokens := s.tokens.extract 0 position ++ tokens ++
      s.tokens.extract position s.tokens.size }

/-- Closes the block collections that stand further to the right. -/
def unwind (s : Scan) (column : Int) : Scan :=
  if s.inFlow then s
  else
    let closed := s.indents.takeWhile fun (i : Nat) => decide (column < (i : Int))
    { s with
      indents := s.indents.drop closed.length
      tokens := s.tokens ++ Array.replicate closed.length Token.blockEnd }

/-- Whether a block collection at a column lies inside the innermost one. -/
def opens (s : Scan) (column : Nat) : Bool := decide (s.indent < (column : Int))

def openAt (s : Scan) (column : Nat) : Scan := { s with indents := column :: s.indents }

/-- Opens a block collection at this place if none is. -/
def openBlock (s : Scan) (token : Token) : Scan :=
  if s.opens s.place.column then (s.openAt s.place.column).emit token else s

/-- Forgets the possible key of this level, which must not be one that is required. -/
def dropKey (s : Scan) : Except Error Scan :=
  match s.possibleKeys.lookup s.flowLevel with
  | none => .ok s
  | some key =>
    if key.required then .error .malformed
    else .ok { s with possibleKeys := s.possibleKeys.filter (·.1 != s.flowLevel) }

/-- Remembers that the next token may begin a key. -/
def saveKey (s : Scan) : Except Error Scan := do
  if s.allowsKey then
    let required := !s.inFlow && decide (s.indent = (s.place.column : Int))
    let s ← s.dropKey
    let key : PossibleKey := ⟨s.tokens.size, required, s.place⟩
    return { s with possibleKeys := (s.flowLevel, key) :: s.possibleKeys }
  else return s

/-- A key lies within one line and is not too long. -/
def isStale (s : Scan) (key : PossibleKey) : Bool :=
  key.place.line != s.place.line || decide (key.place.index + maxKeyLength < s.place.index)

def dropStaleKeys (s : Scan) : Except Error Scan :=
  if s.possibleKeys.any fun k => s.isStale k.2 && k.2.required then .error .malformed
  else .ok { s with possibleKeys := s.possibleKeys.filter fun k => !s.isStale k.2 }

/-- Passes over blanks, comments and line breaks. A key may begin behind a line break. -/
def skipToToken : Nat → Scan → Scan
  | 0, s => s
  | fuel + 1, s =>
    let c := (s.place.skipWhile (· == ' ')).skipComment
    match c.lineBreak? with
    | some (_, c) => skipToToken fuel { s with place := c, allowsKey := s.allowsKey || !s.inFlow }
    | none => { s with place := c }

/-- The end of all blocks, in front of a directive or a document mark. -/
def endDocument (s : Scan) : Except Error Scan := do
  let s ← (s.unwind (-1)).dropKey
  return { s with allowsKey := false }

def flowStart (s : Scan) (token : Token) : Except Error Scan := do
  let s ← s.saveKey
  return { s with flowLevel := s.flowLevel + 1, allowsKey := true }.take 1 token

def flowEnd (s : Scan) (token : Token) : Except Error Scan := do
  if !s.inFlow then throw .malformed
  let s ← s.dropKey
  return { s with flowLevel := s.flowLevel - 1, allowsKey := false }.take 1 token

def flowEntry (s : Scan) : Except Error Scan := do
  let s ← s.dropKey
  return { s with allowsKey := true }.take 1 .flowEntry

def blockEntry (s : Scan) : Except Error Scan := do
  if !s.inFlow && !s.allowsKey then throw .malformed
  let s := if s.inFlow then s else s.openBlock .blockSequenceStart
  let s ← s.dropKey
  return { s with allowsKey := true }.take 1 .blockEntry

def explicitKey (s : Scan) : Except Error Scan := do
  if !s.inFlow && !s.allowsKey then throw .malformed
  let s := if s.inFlow then s else s.openBlock .blockMappingStart
  let s ← s.dropKey
  return { s with allowsKey := !s.inFlow }.take 1 .key

/-- A colon behind a possible key makes it one. -/
def valueOf (s : Scan) (key : PossibleKey) : Scan :=
  let column := key.place.column
  let opening := !s.inFlow && s.opens column
  let s := if opening then s.openAt column else s
  let s := s.insertAt key.position (if opening then #[.blockMappingStart, .key] else #[.key])
  { s with
    possibleKeys := s.possibleKeys.filter (·.1 != s.flowLevel)
    allowsKey := false }.take 1 .value

def value (s : Scan) : Except Error Scan := do
  match s.possibleKeys.lookup s.flowLevel with
  | some key => return s.valueOf key
  | none =>
    if !s.inFlow && !s.allowsKey then throw .malformed
    let s := if s.inFlow then s else s.openBlock .blockMappingStart
    return { s with allowsKey := !s.inFlow }.take 1 .value

/-- Adds a token that was read from here and may begin a key. -/
def property (s : Scan) (read : Cursor → Except Error (Token × Cursor)) : Except Error Scan := do
  let s ← s.saveKey
  let (token, place) ← read s.place
  return { s with place, allowsKey := false }.emit token

def blockScalar (s : Scan) : Except Error Scan := do
  let s ← s.dropKey
  let (text, place) ← Block.read s.indent s.place
  return { s with place, allowsKey := true }.emit (.scalar (.plain (String.ofList text)) false)

def plainScalar (s : Scan) : Except Error Scan := do
  let s ← s.saveKey
  let found := Plain.read s.inFlow (s.indent + 1) s.place
  return { s with place := found.place, allowsKey := found.atLineStart }.emit
    (.scalar (.plain (String.ofList found.text)) true)

def indicators : List Char := "-?:,[]\x7b\x7d#&*!|>'\"%@`".toList

/-- Whether a plain scalar can begin here. -/
def startsPlain (s : Scan) : Bool :=
  let c := s.place.peek
  !(endsToken c || indicators.contains c) ||
    !endsToken (s.place.peekAt 1) && (c == '-' || !s.inFlow && (c == '?' || c == ':'))

/-- Reads the token that begins here. -/
def token (s : Scan) : Except Error Scan :=
  let c := s.place.peek
  let alone := endsToken (s.place.peekAt 1)
  let atStart := s.place.column = 0
  if c = '%' ∧ atStart then do
    let s ← s.endDocument
    let (token, place) ← Properties.directive s.place.next
    return { s with place }.emit token
  else if c = '-' ∧ atStart ∧ s.place.atDocumentMark then
    s.endDocument.map (·.take 3 .documentStart)
  else if c = '.' ∧ atStart ∧ s.place.atDocumentMark then
    s.endDocument.map (·.take 3 .documentEnd)
  else if c = '[' then s.flowStart .flowSequenceStart
  else if c = '\x7b' then s.flowStart .flowMappingStart
  else if c = ']' then s.flowEnd .flowSequenceEnd
  else if c = '\x7d' then s.flowEnd .flowMappingEnd
  else if c = ',' then s.flowEntry
  else if c = '-' ∧ alone then s.blockEntry
  else if c = '?' ∧ (s.inFlow ∨ alone) then s.explicitKey
  else if c = ':' ∧ (s.inFlow ∨ alone) then s.value
  else if c = '*' then
    s.property fun c => (Properties.anchorName c.next).map fun r => (.alias r.1, r.2)
  else if c = '&' then
    s.property fun c => (Properties.anchorName c.next).map fun r => (.anchor r.1, r.2)
  else if c = '!' then s.property Properties.tag
  else if (c = '|' ∨ c = '>') ∧ !s.inFlow then s.blockScalar
  else if c = '\'' ∨ c = '"' then
    s.property fun c => (Quotes.read c).map fun r => (.scalar (.ofPoints r.1) false, r.2)
  else if s.startsPlain then s.plainScalar
  else .error .malformed

def finish (s : Scan) : Except Error Scan := do
  let s ← s.endDocument
  return s.emit .streamEnd

/-- Adds the next token, or the end behind the last one. -/
def step (s : Scan) : Except Error Scan := do
  let s ← (s.skipToToken (s.place.rest.length + 1)).dropStaleKeys
  let s := s.unwind s.place.column
  if s.place.rest.isEmpty then s.finish else s.token

/-- The number of tokens that are passed on before the text is read any further. A token that may
begin a key is kept back. -/
def released (s : Scan) : Nat :=
  (s.possibleKeys.filter fun k => !s.isStale k.2).foldl (fun n k => min n k.2.position)
    s.tokens.size

/-- The tokens in front of a place from which on the text cannot be read. -/
def broken (s : Scan) (error : Error) : List Token :=
  s.tokens.toList.take s.released ++ [.broken error]

/-- The tokens from here on. What cannot be read ends them. -/
def run : Nat → Scan → List Token
  | 0, s => s.broken .malformed
  | fuel + 1, s =>
    match s.step with
    | .error e => s.broken e
    | .ok next => if next.tokens.back? = some .streamEnd then next.tokens.toList else run fuel next

end Scan

/-- The characters that a YAML text can hold. -/
def isAllowed (c : Char) : Bool :=
  let n := c.toNat
  n == 0x9 || n == 0xa || n == 0xd || n == 0x85 || 0x20 ≤ n && n ≤ 0x7e || 0xa0 ≤ n && n ≤ 0xfffd ||
    0x10000 ≤ n

/-- Every character belongs to a token, a blank or a comment. -/
def tokens (text : List Char) : List Token :=
  if text.all isAllowed then
    let start : Cursor := ⟨text, 0, 0, 0⟩
    let start := if start.peek = byteOrderMark then start.next else start
    Scan.run (text.length + 2) { place := start }
  else [.broken .malformed]

end PascalWorkspace.Yaml
