import PascalWorkspace.Xml.Token

/-! Document type declarations: the entities and the attribute defaults that the internal subset
declares. An external subset is never read; from the place where one is named on, what is undeclared
may have been declared there. -/
namespace PascalWorkspace.Xml

inductive EntityBody where
  | internal (text : Chars)
  | external
  /-- An external entity that is not XML. -/
  | unparsed
  deriving DecidableEq, Repr

/-- An attribute as declared for the elements of one name. -/
structure AttributeRule where
  element : Chars
  name : QName
  isCdata : Bool
  value : Option Chars
  deriving Repr

structure Doctype where
  entities : List (Chars × EntityBody) := []
  rules : List AttributeRule := []
  /-- Some declarations may be out of sight. -/
  isPartial : Bool := false
  standalone : Bool := false
  /-- Declarations still count. -/
  isProcessing : Bool := true
  deriving Repr

namespace Doctype

def entity? (d : Doctype) (name : Chars) : Option EntityBody := d.entities.lookup name

/-- An undeclared entity is an error unless it may have been declared out of sight. -/
def requiresDeclaration (d : Doctype) : Bool := !d.isPartial || d.standalone

def addEntity (d : Doctype) (name : Chars) (body : EntityBody) : Doctype :=
  if d.isProcessing && (predefined name).isNone && (d.entity? name).isNone then
    { d with entities := d.entities ++ [(name, body)] }
  else d

/-- Of two declarations of an attribute only the first gives a value. -/
def addRule (d : Doctype) (rule : AttributeRule) : Doctype :=
  if !d.isProcessing then d
  else if rule.value.isSome
      && d.rules.any (fun r => r.element == rule.element && r.name == rule.name) then d
  else { d with rules := d.rules ++ [rule] }

def rulesFor (d : Doctype) (element : Chars) : List AttributeRule :=
  d.rules.filter (·.element == element)

end Doctype

/-- Appends a space unless the attribute's form asks for single spaces and one is there already. -/
def addSpace (isCdata : Bool) (reversed : Chars) : Chars :=
  if !isCdata && (reversed.isEmpty || reversed.head? = some ' ') then reversed else ' ' :: reversed

/-- The value of an attribute as written in `cs`, collected in reverse. Entities in `opened` are
being replaced at the moment. -/
def attributeChars (d : Doctype) (isCdata : Bool) :
    Nat → List Chars → Chars → Chars → Option Chars
  | _, _, reversed, [] => some reversed
  | 0, _, _, _ :: _ => none
  | fuel + 1, opened, reversed, '&' :: rest => do
    let (reference, rest) ← takeReference rest
    match reference with
    | .char c =>
      let reversed := if c = ' ' then addSpace isCdata reversed else c :: reversed
      attributeChars d isCdata fuel opened reversed rest
    | .entity name =>
      match predefined name with
      | some c => attributeChars d isCdata fuel opened (c :: reversed) rest
      | none =>
        match d.entity? name with
        | none =>
          if d.requiresDeclaration then none
          else attributeChars d isCdata fuel opened reversed rest
        | some (.internal text) =>
          if opened.contains name then none
          else do
            let reversed ← attributeChars d isCdata fuel (name :: opened) reversed text
            attributeChars d isCdata fuel opened reversed rest
        | some _ => none
  | fuel + 1, opened, reversed, '\r' :: '\n' :: rest =>
    attributeChars d isCdata fuel opened (addSpace isCdata reversed) rest
  | fuel + 1, opened, reversed, c :: rest =>
    if c = '<' then none
    else if isSpace c then
      attributeChars d isCdata fuel opened (addSpace isCdata reversed) rest
    else attributeChars d isCdata fuel opened (c :: reversed) rest

/-- Enough steps for a text in which every entity is replaced inside every other at most once. -/
def Doctype.steps (d : Doctype) (cs : Chars) : Nat :=
  d.entities.foldl (fun n e => match e.2 with | .internal text => n + text.length | _ => n)
    (cs.length + 1)

def attributeValue (d : Doctype) (isCdata : Bool) (cs : Chars) : Option Chars := do
  let reversed ← attributeChars d isCdata (d.steps cs) [] [] cs
  match reversed with
  | ' ' :: more => some (if isCdata then reversed else more).reverse
  | _ => some reversed.reverse

/-- The replacement text of an entity: character references are replaced, references to entities are
kept, and references to parameter entities are refused. -/
def entityText : Nat → Chars → Option Chars
  | _, [] => some []
  | 0, _ :: _ => none
  | fuel + 1, '&' :: rest => do
    let (reference, after) ← takeReference rest
    let text ← entityText fuel after
    match reference with
    | .char c => some (c :: text)
    | .entity name => some ('&' :: name ++ ';' :: text)
  | fuel + 1, '\r' :: '\n' :: rest => (entityText fuel rest).map ('\n' :: ·)
  | fuel + 1, c :: rest =>
    if c = '%' then none
    else (entityText fuel rest).map ((if c = '\r' then '\n' else c) :: ·)

/-- Characters that may follow a name in a declaration. -/
def endsDeclName (c : Char) : Bool :=
  isSpace c || c == '>' || c == ')' || c == ',' || c == '|' || c == '[' || c == '%'

def checkEnd (allowed : Char → Bool) (cs : Chars) : Option Chars :=
  match cs with
  | c :: _ => if allowed c then some cs else none
  | [] => none

def takeDeclQName (cs : Chars) : Option (QName × Chars) := do
  let (name, rest) ← takeLooseQName cs
  return (name, ← checkEnd endsDeclName rest)

def takeDeclName (cs : Chars) : Option (Chars × Chars) := do
  let (name, rest) ← takeName cs
  return (name, ← checkEnd endsDeclName rest)

def endsLiteral (c : Char) : Bool := isSpace c || c == '>' || c == '%' || c == '['

def takeLiteral (cs : Chars) : Option (Chars × Chars) := do
  let (text, rest) ← takeQuoted cs
  return (text, ← checkEnd endsLiteral rest)

def isPublicIdChar (c : Char) : Bool :=
  c.isAlphanum || " \r\n-'()+,./:=?;!*#@$_%".toList.contains c

/-- An external identifier whose keyword has been read. -/
def takeExternalId (keyword : Chars) (cs : Chars) : Option Chars :=
  if keyword = "SYSTEM".toList then do
    let (_, rest) ← takeLiteral (← needSpace cs)
    return rest
  else if keyword = "PUBLIC".toList then do
    let (publicId, rest) ← takeLiteral (← needSpace cs)
    if publicId.all isPublicIdChar then
      let (_, rest) ← takeLiteral (← needSpace rest)
      return rest
    else none
  else none

def closeDecl (cs : Chars) : Option Chars := drop? ['>'] (skipSpace cs)

/-- A declared entity behind its name: the body and the rest. -/
def takeEntityBody (isParameter : Bool) (isProcessing : Bool) (cs : Chars) :
    Option (EntityBody × Chars) :=
  match cs with
  | '"' :: _ | '\'' :: _ => do
    let (text, rest) ← takeLiteral cs
    let rest ← closeDecl rest
    if isProcessing then
      let text ← entityText (text.length + 1) text
      return (.internal text, rest)
    else return (.internal [], rest)
  | _ => do
    let (keyword, rest) ← takeDeclName cs
    let rest ← takeExternalId keyword rest
    match closeDecl rest with
    | some rest => some (.external, rest)
    | none =>
      if isParameter then none
      else do
        let (keyword, rest) ← takeDeclName (← needSpace rest)
        if keyword = "NDATA".toList then
          let (_, rest) ← takeDeclName (← needSpace rest)
          return (.unparsed, ← closeDecl rest)
        else none

def entityDecl (d : Doctype) (cs : Chars) : Option (Doctype × Chars) := do
  let cs ← needSpace cs
  match cs with
  | '%' :: rest => do
    let (_, rest) ← takeDeclName (← needSpace rest)
    let (_, rest) ← takeEntityBody true d.isProcessing (← needSpace rest)
    return (d, rest)
  | _ => do
    let (name, rest) ← takeDeclName cs
    let (body, rest) ← takeEntityBody false d.isProcessing (← needSpace rest)
    return (d.addEntity name body, rest)

def cdataType : Chars := "CDATA".toList

def plainTypes : List Chars :=
  ["ID", "IDREF", "IDREFS", "ENTITY", "ENTITIES", "NMTOKEN", "NMTOKENS"].map String.toList

/-- The alternatives of an enumerated type, behind the opening parenthesis. -/
def takeAlternatives (take : Chars → Option (Chars × Chars)) : Nat → Chars → Option Chars
  | 0, _ => none
  | fuel + 1, cs => do
    let (_, rest) ← take (skipSpace cs)
    match skipSpace rest with
    | '|' :: rest => takeAlternatives take fuel rest
    | ')' :: rest => checkEnd (fun c => isSpace c || [')', '|', ',', '>'].contains c) rest
    | _ => none

def takeDeclToken (cs : Chars) : Option (Chars × Chars) := do
  let (token, rest) ← takeToken cs
  return (token, ← checkEnd endsDeclName rest)

/-- Whether an attribute type is plain character data, and the rest. -/
def takeAttributeType (cs : Chars) : Option (Bool × Chars) :=
  match cs with
  | '(' :: rest => do return (false, ← takeAlternatives takeDeclToken (rest.length + 1) rest)
  | _ => do
    let (keyword, rest) ← takeDeclName cs
    if keyword = cdataType then return (true, rest)
    else if plainTypes.contains keyword then return (false, rest)
    else if keyword = "NOTATION".toList then
      let rest ← drop? ['('] (← needSpace rest)
      return (false, ← takeAlternatives takeDeclName (rest.length + 1) rest)
    else none

/-- The default of an attribute: its value if there is one, and the rest. -/
def takeDefault (cs : Chars) : Option (Option Chars × Chars) :=
  match cs with
  | '#' :: rest => do
    let (keyword, rest) ← takeDeclName rest
    if keyword = "IMPLIED".toList ∨ keyword = "REQUIRED".toList then return (none, rest)
    else if keyword = "FIXED".toList then
      let (text, rest) ← takeLiteral (← needSpace rest)
      return (some text, rest)
    else none
  | _ => do
    let (text, rest) ← takeLiteral cs
    return (some text, rest)

def attributeDecls (element : Chars) : Nat → Doctype → Chars → Option (Doctype × Chars)
  | 0, _, _ => none
  | fuel + 1, d, cs =>
    match skipSpace cs with
    | '>' :: rest => some (d, rest)
    | _ => do
      let cs ← needSpace cs
      let (name, rest) ← takeDeclQName cs
      let (isCdata, rest) ← takeAttributeType (← needSpace rest)
      let (written, rest) ← takeDefault (← needSpace rest)
      let value ← match written with
        | some text =>
          if d.isProcessing then (attributeValue d isCdata text).map some else some none
        | none => some none
      attributeDecls element fuel (d.addRule ⟨element, name, isCdata, value⟩) rest

def attributeListDecl (d : Doctype) (cs : Chars) : Option (Doctype × Chars) := do
  let (element, rest) ← takeDeclQName (← needSpace cs)
  attributeDecls element.text (rest.length + 1) d rest

/-- A repetition mark directly behind a particle. -/
def skipRepetition : Chars → Chars
  | '?' :: rest | '*' :: rest | '+' :: rest => rest
  | cs => cs

def takeModelName (cs : Chars) : Option Chars := do
  let (_, rest) ← takeLooseQName cs
  match rest with
  | '?' :: rest | '*' :: rest | '+' :: rest => some rest
  | _ => checkEnd endsDeclName rest

/-- A group of a content model behind its opening parenthesis; the list holds the connector of each
group that encloses the place. -/
def skipGroups : Nat → List (Option Char) → Bool → Chars → Option Chars
  | 0, _, _, _ => none
  | _, [], _, cs => some cs
  | fuel + 1, connector :: outer, needsParticle, cs =>
    match skipSpace cs with
    | '(' :: rest =>
      if needsParticle then skipGroups fuel (none :: connector :: outer) true rest else none
    | ')' :: rest =>
      if needsParticle then none
      else
        let after := skipRepetition rest
        if after.length < rest.length then skipGroups fuel outer false after
        else do
          let rest ← checkEnd
            (fun c => isSpace c || c == '>' || c == ',' || c == '|' || c == ')') rest
          skipGroups fuel outer false rest
    | c :: rest =>
      if c = ',' ∨ c = '|' then
        if needsParticle then none
        else if connector = none ∨ connector = some c then
          skipGroups fuel (some c :: outer) true rest
        else none
      else if needsParticle then do
        skipGroups fuel (connector :: outer) false (← takeModelName (c :: rest))
      else none
    | [] => none

/-- Mixed content behind its keyword. -/
def skipMixed : Nat → Bool → Chars → Option Chars
  | 0, _, _ => none
  | fuel + 1, hasNames, cs =>
    match skipSpace cs with
    | ')' :: '*' :: rest => some rest
    | ')' :: rest =>
      if hasNames then none
      else checkEnd (fun c => isSpace c || c == '>' || c == ',' || c == '|' || c == ')') rest
    | '|' :: rest => do
      let (_, rest) ← takeDeclQName (skipSpace rest)
      skipMixed fuel true rest
    | _ => none

def skipModel (cs : Chars) : Option Chars :=
  match cs with
  | '(' :: rest =>
    match drop? ['#'] (skipSpace rest) with
    | some rest => do
      let (keyword, rest) ← takeDeclName rest
      if keyword = "PCDATA".toList then skipMixed (rest.length + 1) false rest else none
    | none => skipGroups (rest.length + 2) [none] true rest
  | _ => do
    let (keyword, rest) ← takeDeclName cs
    if keyword = "EMPTY".toList ∨ keyword = "ANY".toList then some rest else none

def elementDecl (cs : Chars) : Option Chars := do
  let (_, rest) ← takeDeclQName (← needSpace cs)
  closeDecl (← skipModel (← needSpace rest))

def notationDecl (cs : Chars) : Option Chars := do
  let (_, rest) ← takeDeclName (← needSpace cs)
  let (keyword, rest) ← takeDeclName (← needSpace rest)
  match takeExternalId keyword rest with
  | some rest => closeDecl rest
  | none =>
    if keyword = "PUBLIC".toList then do
      let (publicId, rest) ← takeLiteral (← needSpace rest)
      if publicId.all isPublicIdChar then closeDecl rest else none
    else none

/-- The internal subset behind its opening bracket, up to its closing one. -/
def subset : Nat → Doctype → Chars → Option (Doctype × Chars)
  | 0, _, _ => none
  | fuel + 1, d, cs =>
    match skipSpace cs with
    | ']' :: rest => some (d, rest)
    | '%' :: rest => do
      let (_, rest) ← takeName rest
      let rest ← drop? [';'] rest
      subset fuel { d with isPartial := true, isProcessing := d.standalone } rest
    | '<' :: '!' :: '-' :: '-' :: rest => do subset fuel d (← skipComment rest)
    | '<' :: '?' :: rest => do subset fuel d (← skipInstruction rest)
    | '<' :: '!' :: rest =>
      match drop? "ENTITY".toList rest, drop? "ATTLIST".toList rest,
        drop? "ELEMENT".toList rest, drop? "NOTATION".toList rest with
      | some rest, _, _, _ => do
        let (d, rest) ← entityDecl d rest
        subset fuel d rest
      | _, some rest, _, _ => do
        let (d, rest) ← attributeListDecl d rest
        subset fuel d rest
      | _, _, some rest, _ => do subset fuel d (← elementDecl rest)
      | _, _, _, some rest => do subset fuel d (← notationDecl rest)
      | none, none, none, none => none
    | _ => none

/-- A document type declaration behind its keyword. -/
def takeDoctype (standalone : Bool) (cs : Chars) : Option (Doctype × Chars) := do
  let (_, rest) ← takeDeclQName (← needSpace cs)
  let d : Doctype := { standalone }
  let (d, rest) ← match skipSpace rest with
    | 'S' :: _ | 'P' :: _ => do
      let (keyword, rest) ← takeDeclName (← needSpace rest)
      let rest ← takeExternalId keyword rest
      some ({ d with isPartial := true }, rest)
    | _ => some (d, rest)
  match skipSpace rest with
  | '>' :: rest => some (d, rest)
  | '[' :: rest => do
    let (d, rest) ← subset (rest.length + 1) d rest
    return (d, ← closeDecl rest)
  | _ => none

end PascalWorkspace.Xml
