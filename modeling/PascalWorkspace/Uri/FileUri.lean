import PascalWorkspace.Host.PathError
import PascalWorkspace.Text.Wide
import PascalWorkspace.Uri.Host

/-! File URIs and the paths they stand for. A path is written as percent-encoded UTF-8; reading
takes any mixture of plain and encoded characters, on this machine only. -/
namespace PascalWorkspace

inductive UriError where
  /-- The text is no URI. -/
  | malformed
  | notFile
  | remoteHost
  | notAbsolute
  /-- A name in the path is none that a file can have. -/
  | unusable (error : PathError)
  deriving DecidableEq, Repr

namespace Uri

open Text (CodePoint)

/-- The parts of a URI that matter for a file: the rest behind `?` or `#` is dropped. -/
structure Split where
  scheme : List Char
  authority : List Char
  path : List CodePoint
  deriving DecidableEq, Repr

def isSchemeChar (c : Char) : Bool := c.isAlphanum || c == '+' || c == '-' || c == '.'

/-- Controls and spaces in front are dropped, and tabs and line ends everywhere. -/
def clean (points : List CodePoint) : List CodePoint :=
  (points.dropWhile (·.sign.toNat ≤ 0x20)).filter fun p =>
    p.sign ≠ '\t' && p.sign ≠ '\n' && p.sign ≠ '\r'

/-- A scheme is what stands before the first colon if it begins with a letter. -/
def splitScheme (points : List CodePoint) : List Char × List CodePoint :=
  let scheme := (points.takeWhile (·.sign ≠ ':')).map CodePoint.sign
  match points.dropWhile (·.sign ≠ ':') with
  | [] => ([], points)
  | _ :: rest =>
    if (scheme.head?.map Char.isAlpha).getD false && scheme.all isSchemeChar then
      (scheme.map Char.toLower, rest)
    else ([], points)

def endsAuthority (c : Char) : Bool := c == '/' || c == '?' || c == '#'

def splitAuthority : List CodePoint → List Char × List CodePoint
  | .char '/' :: .char '/' :: rest =>
    ((rest.takeWhile (!endsAuthority ·.sign)).map CodePoint.sign,
      rest.dropWhile (!endsAuthority ·.sign))
  | points => ([], points)

def split (points : List CodePoint) : Split :=
  let (scheme, rest) := splitScheme (clean points)
  let (authority, rest) := splitAuthority rest
  { scheme, authority, path := rest.takeWhile fun p => p.sign ≠ '#' && p.sign ≠ '?' }

def hexValue (b : UInt8) : Option UInt8 :=
  let n := b.toNat
  if 0x30 ≤ n ∧ n ≤ 0x39 then some (UInt8.ofNat (n - 0x30))
  else if 0x41 ≤ n ∧ n ≤ 0x46 then some (UInt8.ofNat (n - 0x37))
  else if 0x61 ≤ n ∧ n ≤ 0x66 then some (UInt8.ofNat (n - 0x57))
  else none

/-- A percent sign that two hexadecimal digits do not follow stands for itself. -/
def percentDecode : List UInt8 → List UInt8
  | 0x25 :: a :: b :: rest =>
    match hexValue a, hexValue b with
    | some x, some y => (x * 16 + y) :: percentDecode rest
    | _, _ => 0x25 :: percentDecode (a :: b :: rest)
  | b :: rest => b :: percentDecode rest
  | [] => []

def unescapeChars (cs : List Char) : List Char :=
  Text.Utf8.decodeLenient (percentDecode (Text.Utf8.encode cs))

def unescape (cs : List Char) : String := String.ofList (unescapeChars cs)

/-- What is wrong with a path that cannot be encoded. Names are looked at one after the other, and
in each a character without bytes is found before a NUL. -/
def nameFault (points : List CodePoint) : PathError :=
  let before := (points.takeWhile CodePoint.isEncodable).map CodePoint.sign
  if (before.reverse.dropWhile (· ≠ '/')).contains '\x00' then .holdsNul else .unencodable

/-- The path that a file URI stands for. -/
def toPath (uri : Text.Wide) : Except UriError Path :=
  let parts := split uri.points
  if !isAuthority parts.authority then .error .malformed
  else if parts.scheme ≠ "file".toList then .error .notFile
  else if parts.authority ≠ [] ∧ parts.authority ≠ "localhost".toList then .error .remoteHost
  else
    let named := Text.mapRuns unescapeChars [] parts.path
    if (named.head?.map CodePoint.sign) ≠ some '/' then .error .notAbsolute
    else match Text.fileChars? [] named with
      | some cs => .ok (Path.ofString (String.ofList cs))
      | none => .error (.unusable (nameFault named))

def isUnreserved (c : Char) : Bool :=
  c.isAlphanum || c == '-' || c == '.' || c == '_' || c == '~'

def percentEncode (b : UInt8) : List Char :=
  '%' :: (Text.hexDigits 2 b.toNat).map Char.toUpper

def escapeChar (c : Char) : List Char :=
  if isUnreserved c || c == '/' then [c] else (String.utf8EncodeChar c).flatMap percentEncode

/-- The URI of an absolute path. -/
def ofPath (p : Path) : String := "file://" ++ String.ofList (p.toString.toList.flatMap escapeChar)

end Uri

end PascalWorkspace
