import PascalWorkspace.Xml.Content
import PascalWorkspace.Xml.Source

/-! Whole documents: a declaration, a document type, one root element, and comments and processing
instructions between them. -/
namespace PascalWorkspace.Xml

/-- Skips comments, processing instructions and white space. -/
def skipMisc : Nat → Chars → Option Chars
  | 0, _ => none
  | fuel + 1, cs =>
    match skipSpace cs with
    | '<' :: '!' :: '-' :: '-' :: rest => do skipMisc fuel (← skipComment rest)
    | '<' :: '?' :: rest => do skipMisc fuel (← skipInstruction rest)
    | rest => some rest

def skipAllMisc (cs : Chars) : Option Chars := skipMisc (cs.length + 1) cs

def takeProlog (standalone : Bool) (cs : Chars) : Option (Doctype × Chars) := do
  let cs ← skipAllMisc cs
  match drop? "<!DOCTYPE".toList cs with
  | some rest => do
    let (d, rest) ← takeDoctype standalone rest
    return (d, ← skipAllMisc rest)
  | none => return ({ standalone }, cs)

/-- The frame below the root element. -/
def documentFrame : Frame := ⟨⟨none, []⟩, [], [], [], []⟩

/-- The root element; an empty one is its own content. -/
def takeRoot (d : Doctype) (cs : Chars) : Option (Element × Chars) := do
  let rest ← drop? ['<'] cs
  let (tag, rest) ← takeStartTag rest
  let frame ← openFrame d [] tag
  if tag.isEmpty then return (frame.toElement, rest)
  else
    let (stack, rest) ← content d 1 false (d.steps rest) [] [frame, documentFrame] rest
    match stack with
    | [bottom] => do return (← bottom.reversed.head?, rest)
    | _ => none

def parseChars (standalone : Bool) (cs : Chars) : Option Element := do
  let (d, rest) ← takeProlog standalone cs
  let (root, rest) ← takeRoot d rest
  match ← skipAllMisc rest with
  | [] => some root
  | _ => none

/-- The root element of a document. -/
def parse (bytes : List UInt8) : Except XmlError Element := do
  let (declaration, cs) ← readSource bytes
  match parseChars declaration.standalone cs with
  | some root => .ok root
  | none => .error .notWellFormed

end PascalWorkspace.Xml
