import PascalWorkspace.Text.Utf8
import PascalWorkspace.Yaml.ScalarText

/-! Anchors, aliases, tags and directives. -/
namespace PascalWorkspace.Yaml

namespace Properties

def afterAnchor (c : Char) : Bool := endsToken c || "?:,]\x7d%@`".toList.contains c

/-- The name of an anchor or an alias, behind its indicator. -/
def anchorName (c : Cursor) : Except Error (String × Cursor) :=
  let (name, c) := c.span isNameChar
  if name.isEmpty ∨ !afterAnchor c.peek then .error .malformed
  else .ok (String.ofList name, c)

def isUriChar (c : Char) : Bool :=
  c.isAlphanum || "-;/?:@&=+$,_.!~*'()[]".toList.contains c

/-- The bytes of a run of percent-encoded bytes. -/
def escapedBytes : Nat → List UInt8 → Cursor → Except Error (List UInt8 × Cursor)
  | 0, bytes, c => .ok (bytes, c)
  | fuel + 1, bytes, c =>
    if c.peek ≠ '%' then .ok (bytes, c)
    else match Quotes.hexDigit? (c.peekAt 1), Quotes.hexDigit? (c.peekAt 2) with
      | some high, some low =>
        escapedBytes fuel (bytes ++ [UInt8.ofNat (16 * high + low)]) (c.skip 3)
      | _, _ => .error .malformed

def uriText : Nat → List Char → Cursor → Except Error (List Char × Cursor)
  | 0, text, c => .ok (text, c)
  | fuel + 1, text, c => do
    let (plain, c) := c.span isUriChar
    if c.peek ≠ '%' then return (text ++ plain, c)
    else
      let (bytes, c) ← escapedBytes (c.rest.length + 1) [] c
      match Text.Utf8.decode? bytes with
      | some decoded => uriText fuel (text ++ plain ++ decoded) c
      | none => throw .malformed

def uri (c : Cursor) : Except Error (String × Cursor) := do
  let (text, behind) ← uriText (c.rest.length + 1) [] c
  if behind.index = c.index then throw .malformed
  return (String.ofList text, behind)

/-- A handle is an exclamation mark, or a name between two of them. -/
def handle (c : Cursor) : Except Error (String × Cursor) :=
  if c.peek ≠ '!' then .error .malformed
  else if c.peekAt 1 = ' ' then .ok ("!", c.next)
  else
    let (name, behind) := c.next.span isNameChar
    if behind.peek ≠ '!' then .error .malformed
    else .ok (String.ofList ('!' :: (name ++ ['!'])), behind.next)

/-- Whether a tag begins with a handle of its own. -/
def hasHandle (c : Cursor) : Bool := ((c.rest.drop 1).takeWhile (!endsWord ·)).contains '!'

def tagBody (c : Cursor) : Except Error (Token × Cursor) := do
  let second := c.peekAt 1
  if second = '<' then
    let (suffix, c) ← uri (c.skip 2)
    if c.peek ≠ '>' then throw .malformed
    return (.tag none suffix, c.next)
  else if endsToken second then return (.tag none "!", c.next)
  else
    let (first, c) ← if hasHandle c then handle c else .ok ("!", c.next)
    let (suffix, c) ← uri c
    return (.tag (some first) suffix, c)

def tag (c : Cursor) : Except Error (Token × Cursor) := do
  let (token, c) ← tagBody c
  if endsWord c.peek then return (token, c) else throw .malformed

def skipSpaces (c : Cursor) : Cursor := c.skipWhile (· == ' ')

/-- A version such as `1.1`, of which the first number counts. -/
def version (c : Cursor) : Except Error (Token × Cursor) :=
  let (major, c) := (skipSpaces c).span Char.isDigit
  let (minor, behind) := c.next.span Char.isDigit
  if major.isEmpty ∨ c.peek ≠ '.' ∨ minor.isEmpty ∨ !endsWord behind.peek then .error .malformed
  else .ok (.versionDirective ((String.ofList major).toNat?.getD 0), behind)

def tagMeaning (c : Cursor) : Except Error (Token × Cursor) := do
  let (name, c) ← handle (skipSpaces c)
  if c.peek ≠ ' ' then throw .malformed
  let (meaning, c) ← uri (skipSpaces c)
  if endsWord c.peek then return (.tagDirective name meaning, c) else throw .malformed

def directiveBody (name : String) (c : Cursor) : Except Error (Token × Cursor) :=
  if name = "YAML" then version c
  else if name = "TAG" then tagMeaning c
  else .ok (.otherDirective, c.skipWhile (!endsLine ·))

/-- Reads a directive from behind the percent sign to the end of its line. -/
def directive (c : Cursor) : Except Error (Token × Cursor) := do
  let (name, c) := c.span isNameChar
  if name.isEmpty ∨ !endsWord c.peek then throw .malformed
  let (token, c) ← directiveBody (String.ofList name) c
  match c.restOfLine? with
  | some c => return (token, c)
  | none => throw .malformed

end Properties

end PascalWorkspace.Yaml
