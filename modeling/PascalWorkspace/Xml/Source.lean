import PascalWorkspace.Text.CodePage
import PascalWorkspace.Text.Utf8
import PascalWorkspace.Xml.Token

/-! From the bytes of a document to its characters. The encoding is UTF-16 if the first bytes say
so; else it is the one that the XML declaration names, and UTF-8 without a name. -/
namespace PascalWorkspace

inductive XmlError where
  | notWellFormed
  /-- The declaration names an encoding that nobody knows. -/
  | unknownEncoding
  /-- The declaration names an encoding with characters of more than one byte. -/
  | multiByteEncoding
  deriving DecidableEq, Repr

namespace Xml

/-- What the XML declaration says. -/
structure Declaration where
  encoding : Option String
  standalone : Bool
  deriving DecidableEq, Repr

def isValueChar (c : Char) : Bool := c.isAlphanum || c == '.' || c == '-' || c == '_'

/-- One setting of the declaration: a name, an equals sign and a quoted value. -/
def takeSetting (cs : Chars) : Option (Option (Chars × Chars) × Chars) :=
  match cs with
  | [] => some (none, [])
  | _ => do
    match ← needSpace cs with
    | [] => some (none, [])
    | cs =>
      let name := cs.takeWhile fun c => c ≠ '=' && !isSpace c
      let rest ← drop? ['='] (skipSpace (cs.dropWhile fun c => c ≠ '=' && !isSpace c))
      let (value, rest) ← takeQuoted (skipSpace rest)
      if name.isEmpty || !value.all isValueChar then none else some (some (name, value), rest)

def takeStandalone (encoding : Option String) (cs : Chars) :
    Option (Chars × Chars) → Option Declaration
  | none => some ⟨encoding, false⟩
  | some (name, value) =>
    if name = "standalone".toList ∧ (skipSpace cs).isEmpty then
      if value = "yes".toList then some ⟨encoding, true⟩
      else if value = "no".toList then some ⟨encoding, false⟩
      else none
    else none

/-- Reads what stands between the opening of the declaration and its end. -/
def readDeclaration (cs : Chars) : Option Declaration := do
  let (version, rest) ← takeSetting cs
  match version with
  | none => none
  | some (name, _) =>
    if name ≠ "version".toList then none
    else
      let (second, rest) ← takeSetting rest
      match second with
      | some (name, value) =>
        if name = "encoding".toList then
          if (value.head?.map Char.isAlpha).getD false then
            let (third, rest) ← takeSetting rest
            takeStandalone (some (String.ofList value)) rest third
          else none
        else takeStandalone none rest second
      | none => some ⟨none, false⟩

/-- The declaration at the front of a document, and the rest. -/
def takeDeclaration (cs : Chars) : Option (Declaration × Chars) :=
  match drop? "<?xml".toList cs with
  | some (c :: rest) =>
    if isSpace c || c == '?' then do
      let (inside, after) ← splitAt? ['?', '>'] (c :: rest)
      return (← readDeclaration inside, after)
    else some (⟨none, false⟩, cs)
  | _ => some (⟨none, false⟩, cs)

/-- The code points of 16-bit units up to a surrogate without a partner, and whether there is none.
Whatever follows a high surrogate counts by its low ten bits. -/
def pairUnits : List Nat → Chars × Bool
  | [] => ([], true)
  | [unit] => if 0xD800 ≤ unit ∧ unit < 0xE000 then ([], false) else ([Char.ofNat unit], true)
  | unit :: next :: rest =>
    if 0xD800 ≤ unit ∧ unit < 0xDC00 then
      let (cs, complete) := pairUnits rest
      (Char.ofNat (0x10000 + (unit - 0xD800) * 0x400 + next % 0x400) :: cs, complete)
    else if 0xD800 ≤ unit ∧ unit < 0xE000 then ([], false)
    else
      let (cs, complete) := pairUnits (next :: rest)
      (Char.ofNat unit :: cs, complete)

/-- Two bytes to a unit, and whether no odd byte is left over. -/
def units (bigEndian : Bool) : List UInt8 → List Nat × Bool
  | [] => ([], true)
  | [_] => ([], false)
  | a :: b :: rest =>
    let unit := if bigEndian then a.toNat * 256 + b.toNat else b.toNat * 256 + a.toNat
    let (more, complete) := units bigEndian rest
    (unit :: more, complete)

/-- The characters of UTF-16 up to the first fault, and whether there is none. -/
def decodeUtf16 (bigEndian : Bool) (bytes : List UInt8) : Chars × Bool :=
  let (found, complete) := units bigEndian bytes
  let (cs, paired) := pairUnits found
  (cs, complete && paired)

/-- How the first bytes give the encoding away, and the bytes behind a byte order mark. -/
inductive Form where
  | utf16 (bigEndian : Bool) (bytes : List UInt8)
  | bytes (bytes : List UInt8)

def Form.ofBytes : List UInt8 → Form
  | 0xFE :: 0xFF :: rest => .utf16 true rest
  | 0xFF :: 0xFE :: rest => .utf16 false rest
  | 0xEF :: 0xBB :: 0xBF :: rest => .bytes rest
  | 0 :: b :: rest => .utf16 true (0 :: b :: rest)
  | a :: 0 :: rest => .utf16 false (a :: 0 :: rest)
  | rest => .bytes rest

def bytesAsChars (bytes : List UInt8) : Chars := bytes.map fun b => Char.ofNat b.toNat

/-- The characters under an encoding with one byte each. -/
def decodeCharset (charset : Text.Charset) (bytes : List UInt8) : Except XmlError Chars :=
  let decoded (char? : Nat → Option Char) : Except XmlError Chars :=
    match bytes.mapM fun b => if b < 0x80 then some (Char.ofNat b.toNat) else char? b.toNat with
    | some cs => .ok cs
    | none => .error .notWellFormed
  match charset with
  | .ascii => decoded fun _ => none
  | .latin => decoded fun n => some (Char.ofNat n)
  | .paged page => decoded page.char?
  | .multiByte => .error .multiByteEncoding
  | .foreign => .error .notWellFormed
  | .unknown => .error .unknownEncoding

def decodeUtf8 (bytes : List UInt8) : Except XmlError Chars :=
  match Text.Utf8.decode? bytes with
  | some cs => .ok cs
  | none => .error .notWellFormed

def upperName (name : String) : String := String.ofList (name.toList.map Char.toUpper)

def decodeNamed (name : String) (bytes : List UInt8) : Except XmlError Chars :=
  match upperName name with
  | "UTF-8" => decodeUtf8 bytes
  | "ISO-8859-1" => decodeCharset .latin bytes
  | "US-ASCII" => decodeCharset .ascii bytes
  | "UTF-16" | "UTF-16BE" | "UTF-16LE" => .error .notWellFormed
  | _ => decodeCharset (Text.Charset.ofName name) bytes

/-- In a document of 16-bit units the declaration may only name that form. -/
def checkUnitsName (bigEndian : Bool) (name : String) : Except XmlError Unit :=
  match upperName name with
  | "UTF-16" => .ok ()
  | "UTF-16BE" => if bigEndian then .ok () else .error .notWellFormed
  | "UTF-16LE" => if bigEndian then .error .notWellFormed else .ok ()
  | "UTF-8" | "ISO-8859-1" | "US-ASCII" => .error .notWellFormed
  | _ => match Text.Charset.ofName name with
    | .multiByte => .error .multiByteEncoding
    | .unknown => .error .unknownEncoding
    | _ => .error .notWellFormed

def declarationOf (cs : Chars) : Except XmlError (Declaration × Chars) :=
  match takeDeclaration cs with
  | some found => .ok found
  | none => .error .notWellFormed

def checkChars (cs : Chars) : Except XmlError Chars :=
  if cs.all isXmlChar then .ok cs else .error .notWellFormed

/-- What the declaration says, and the characters behind it. -/
def readSource (bytes : List UInt8) : Except XmlError (Declaration × Chars) :=
  match Form.ofBytes bytes with
  | .utf16 bigEndian bytes => do
    let (cs, complete) := decodeUtf16 bigEndian bytes
    let (declaration, rest) ← declarationOf cs
    match declaration.encoding with
    | some name => checkUnitsName bigEndian name
    | none => .ok ()
    if complete then return (declaration, ← checkChars rest)
    else .error .notWellFormed
  | .bytes bytes => do
    let (declaration, _) ← declarationOf (bytesAsChars bytes)
    let cs ← match declaration.encoding with
      | some name => decodeNamed name bytes
      | none => decodeUtf8 bytes
    let (_, rest) ← declarationOf cs
    return (declaration, ← checkChars rest)

end Xml

end PascalWorkspace
