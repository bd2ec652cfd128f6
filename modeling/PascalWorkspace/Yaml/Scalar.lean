import PascalWorkspace.Number.Shortest
import PascalWorkspace.Text.Blank
import PascalWorkspace.Text.DecimalDigit
import PascalWorkspace.Text.Lowercase
import PascalWorkspace.Text.Quoted
import PascalWorkspace.Yaml.Timestamp
import PascalWorkspace.Yaml.Token

/-! The values of scalars: which type a plain scalar has by its form, and what its text stands for.
-/
namespace PascalWorkspace.Yaml

open PascalWorkspace.Number

inductive Tag where
  | null
  | bool
  | integer
  | float
  | binary
  | timestamp
  | text
  | sequence
  | mapping
  | set
  /-- A sequence of pairs. -/
  | pairs
  /-- A key whose value is merged into the mapping. -/
  | merge
  /-- A key whose value stands for the mapping. -/
  | default
  | unknown
  deriving DecidableEq, Repr

inductive Scalar where
  | null
  | bool (b : Bool)
  | integer (n : Int)
  | float (x : Binary64)
  | text (s : Text.Wide)
  | bytes (content : List UInt8)
  | timestamp (t : Timestamp)
  deriving DecidableEq, Repr

namespace Tag

def standardNames : List (String × Tag) := [
  ("null", .null), ("bool", .bool), ("int", .integer), ("float", .float), ("binary", .binary),
  ("timestamp", .timestamp), ("str", .text), ("seq", .sequence), ("map", .mapping), ("set", .set),
  ("omap", .pairs), ("pairs", .pairs), ("merge", .merge), ("value", .default)]

/-- What the names of all standard tags begin with. -/
def standardStart : String := "tag:yaml.org,2002:"

def ofName (name : String) : Tag :=
  ((standardNames.find? fun entry => standardStart ++ entry.1 == name).map (·.2)).getD .unknown

end Tag

namespace Form

def dropSign : List Char → List Char
  | '-' :: rest => rest
  | '+' :: rest => rest
  | cs => cs

def isSpaced (p : Char → Bool) (c : Char) : Bool := p c || c == '_'

def isBinaryDigit (c : Char) : Bool := c == '0' || c == '1'

def isOctalDigit (c : Char) : Bool := '0' ≤ c && c ≤ '7'

def isHexDigit (c : Char) : Bool := c.isDigit || 'a' ≤ c && c ≤ 'f' || 'A' ≤ c && c ≤ 'F'

def nonempty (p : Char → Bool) (cs : List Char) : Bool := !cs.isEmpty && cs.all p

/-- Groups of up to sixty, each behind a colon; the result is what follows them. -/
def sixties : Nat → List Char → List Char
  | 0, cs => cs
  | fuel + 1, cs =>
    match cs with
    | ':' :: a :: b :: rest =>
      if a.isDigit && b.isDigit && a ≤ '5' then sixties fuel rest
      else if a.isDigit then sixties fuel (b :: rest)
      else cs
    | [':', a] => if a.isDigit then [] else cs
    | _ => cs

/-- What follows groups of up to sixty, of which there is at least one. -/
def sixties? (cs : List Char) : Option (List Char) :=
  let rest := sixties cs.length cs
  if rest.length < cs.length then some rest else none

def isDecimalInteger : List Char → Bool
  | ['0'] => true
  | c :: rest =>
    if c.isDigit && c ≠ '0' then
      let behind := rest.dropWhile (isSpaced Char.isDigit)
      behind.isEmpty || sixties? behind == some []
    else false
  | [] => false

def isInteger (cs : List Char) : Bool :=
  match dropSign cs with
  | '0' :: 'b' :: rest => nonempty (isSpaced isBinaryDigit) rest
  | '0' :: 'x' :: rest => nonempty (isSpaced isHexDigit) rest
  | '0' :: c :: rest => nonempty (isSpaced isOctalDigit) (c :: rest)
  | rest => isDecimalInteger rest

/-- An exponent is written with a sign. -/
def isExponent : List Char → Bool
  | [] => true
  | e :: sign :: rest =>
    (e == 'e' || e == 'E') && (sign == '-' || sign == '+') && nonempty Char.isDigit rest
  | _ => false

/-- Whether a text is a fraction from its point on. -/
def isFraction : List Char → Bool
  | '.' :: rest => isExponent (rest.dropWhile (isSpaced Char.isDigit))
  | _ => false

def isSixtiesFraction (cs : List Char) : Bool :=
  match sixties? cs with
  | some ('.' :: rest) => rest.all (isSpaced Char.isDigit)
  | _ => false

def infinities : List (List Char) := [".inf".toList, ".Inf".toList, ".INF".toList]

def notNumbers : List (List Char) := [".nan".toList, ".NaN".toList, ".NAN".toList]

def isFloat (cs : List Char) : Bool :=
  let unsigned := dropSign cs
  let behind := unsigned.dropWhile (isSpaced Char.isDigit)
  let whole := (unsigned.head?.map Char.isDigit).getD false &&
    (isFraction behind || isSixtiesFraction behind)
  let point := match cs with
    | '.' :: c :: rest => c.isDigit && isFraction ('.' :: c :: rest)
    | _ => false
  whole || point || infinities.contains unsigned || notNumbers.contains cs

def booleans : List String := [
  "yes", "Yes", "YES", "no", "No", "NO", "true", "True", "TRUE", "false", "False", "FALSE",
  "on", "On", "ON", "off", "Off", "OFF"]

def nulls : List String := ["~", "null", "Null", "NULL", ""]

/-- A line break at the end does not count, unless there is nothing else. -/
def dropLastBreak (cs : List Char) : List Char :=
  if cs.length ≠ 1 ∧ cs.getLast? = some '\n' then cs.dropLast else cs

/-- The type of a plain scalar. -/
def tag (s : String) : Tag :=
  let cs := dropLastBreak s.toList
  let word := String.ofList cs
  if booleans.contains word then .bool
  else if isFloat cs then .float
  else if isInteger cs then .integer
  else if cs = ['<', '<'] then .merge
  else if nulls.contains word then .null
  else if Timestamp.isPlain cs then .timestamp
  else if cs = ['='] then .default
  else .text

end Form

namespace Scalar

/-- The longest decimal number that is read or written. -/
def maxDecimalDigits : Nat := 4300

def digitValue? (c : Char) : Option Nat :=
  if 'a' ≤ c ∧ c ≤ 'z' then some (c.toNat - 'a'.toNat + 10)
  else if 'A' ≤ c ∧ c ≤ 'Z' then some (c.toNat - 'A'.toNat + 10)
  else Text.decimalDigit? c

def digits? (base : Nat) (cs : List Char) : Option Nat :=
  if cs.isEmpty then none
  else cs.foldl (fun n c => n.bind fun n =>
    ((digitValue? c).filter (· < base)).map (base * n + ·)) (some 0)

/-- The letter that may stand behind a zero in front of a number to another base than ten. -/
def baseLetter? (base : Nat) : Option Char :=
  if base = 2 then some 'b' else if base = 8 then some 'o' else if base = 16 then some 'x' else none

def dropBase (base : Nat) : List Char → List Char
  | '0' :: c :: rest => if baseLetter? base = some c.toLower then rest else '0' :: c :: rest
  | cs => cs

/-- A whole number with blanks around it, a sign and the mark of its base. -/
def wholeNumber? (base : Nat) (cs : List Char) : Option Int :=
  let trimmed := Text.trimBlank cs
  let digits := dropBase base (Form.dropSign trimmed)
  if base = 10 ∧ maxDecimalDigits < digits.length then none
  else (digits? base digits).map fun n => if trimmed.head? = some '-' then -(n : Int) else n

def noUnderscores (s : String) : List Char := s.toList.filter (· ≠ '_')

/-- The pieces of a text between colons. -/
def colonPieces : List Char → List (List Char)
  | [] => [[]]
  | ':' :: rest => [] :: colonPieces rest
  | c :: rest =>
    match colonPieces rest with
    | [] => [[c]]
    | piece :: others => (c :: piece) :: others

def orNoValue {α : Type} : Option α → Except Fault α
  | some a => .ok a
  | none => .error .noValue

/-- A number in groups of sixty. -/
def sixtiesInteger (cs : List Char) : Except Fault Int := do
  let groups ← (colonPieces cs).mapM fun piece => orNoValue (wholeNumber? 10 piece)
  return groups.foldl (fun n group => 60 * n + group) 0

def unsignedInteger (cs : List Char) : Except Fault Int :=
  match cs with
  | [] => .error .noDigits
  | ['0'] => .ok 0
  | '0' :: 'b' :: rest => orNoValue (wholeNumber? 2 rest)
  | '0' :: 'x' :: rest => orNoValue (wholeNumber? 16 rest)
  | '0' :: rest => orNoValue (wholeNumber? 8 ('0' :: rest))
  | _ => if cs.contains ':' then sixtiesInteger cs else orNoValue (wholeNumber? 10 cs)

def readInteger (s : String) : Except Fault Int :=
  let cs := noUnderscores s
  if cs.isEmpty then .error .noDigits
  else (unsignedInteger (Form.dropSign cs)).map fun n => if cs.head? = some '-' then -n else n

/-- The digits at the front of a text as a number, and how many they are. -/
def leadingDigits (cs : List Char) : Nat × Nat × List Char :=
  let found := cs.takeWhile fun c => (Text.decimalDigit? c).isSome
  (((digits? 10 found).getD 0), found.length, cs.drop found.length)

def exponent? (cs : List Char) : Option Int :=
  match cs with
  | [] => some 0
  | e :: rest =>
    if e ≠ 'e' ∧ e ≠ 'E' then none
    else
      let (n, count, behind) := leadingDigits (Form.dropSign rest)
      if count = 0 ∨ !behind.isEmpty then none
      else some (if rest.head? = some '-' then -(n : Int) else n)

def decimal? (cs : List Char) : Option Binary64 := do
  let (whole, wholeCount, rest) := leadingDigits cs
  let (fraction, fractionCount, rest) := match rest with
    | '.' :: rest => leadingDigits rest
    | _ => (0, 0, rest)
  if wholeCount + fractionCount = 0 then none
  else
    let exponent ← exponent? rest
    let digits := whole * Nat.pow 10 fractionCount + fraction
    return Binary64.ofDecimal digits (exponent - fractionCount)

def namedFloat? (word : String) : Option Binary64 :=
  if word = "inf" ∨ word = "infinity" then some (.infinite false)
  else if word = "nan" then some .nan
  else none

/-- A floating-point number with blanks around it and a sign. -/
def floatNumber? (cs : List Char) : Option Binary64 :=
  let trimmed := Text.trimBlank cs
  let unsigned := Form.dropSign trimmed
  let value := (namedFloat? (Text.lowercase (String.ofList unsigned))).or (decimal? unsigned)
  value.map fun x => if trimmed.head? = some '-' then x.negate else x

/-- Adds groups of sixty from the last one up. -/
def addSixties : List Binary64 → (base : Nat) → Binary64 → Except Fault Binary64
  | [], _, sum => .ok sum
  | group :: rest, base, sum =>
    match Binary64.ofInt base with
    | .infinite _ => .error .tooLarge
    | weight => addSixties rest (60 * base) (sum.add (group.multiply weight))

def unsignedFloat (cs : List Char) : Except Fault Binary64 :=
  if cs = ".inf".toList then .ok (.infinite false)
  else if cs = ".nan".toList then .ok .nan
  else if cs.contains ':' then do
    let groups ← (colonPieces cs).mapM fun piece => orNoValue (floatNumber? piece)
    addSixties groups.reverse 1 (Binary64.ofInt 0)
  else orNoValue (floatNumber? cs)

def readFloat (s : String) : Except Fault Binary64 :=
  let cs := (Text.lowercase (String.ofList (noUnderscores s))).toList
  if cs.isEmpty then .error .noDigits
  else (unsignedFloat (Form.dropSign cs)).map fun x => if cs.head? = some '-' then x.negate else x

def readBool (s : String) : Except Fault Bool :=
  let word := Text.lowercase s
  if ["yes", "true", "on"].contains word then .ok true
  else if ["no", "false", "off"].contains word then .ok false
  else .error .unknownWord

def readTimestamp (s : String) : Except Fault Timestamp :=
  match Timestamp.parse? (Form.dropLastBreak s.toList) with
  | none => .error .notTimestamp
  | some t => if t.isPossible then .ok t else .error .noValue

def base64Digit? (c : Char) : Option Nat :=
  if c.isUpper then some (c.toNat - 'A'.toNat)
  else if c.isLower then some (c.toNat - 'a'.toNat + 26)
  else if c.isDigit then some (c.toNat - '0'.toNat + 52)
  else if c = '+' then some 62
  else if c = '/' then some 63
  else none

/-- A group of four digits in the making. -/
structure Base64State where
  /-- The number of digits read. -/
  count : Nat := 0
  /-- The bits left over from the last digit. -/
  left : Nat := 0
  padding : Nat := 0
  bytes : List UInt8 := []

def Base64State.add (s : Base64State) (digit : Nat) : Base64State :=
  let byte (shift : Nat) : List UInt8 :=
    s.bytes ++ [UInt8.ofNat (s.left <<< shift + digit >>> (6 - shift))]
  match s.count with
  | 0 => { s with count := 1, left := digit, padding := 0 }
  | 1 => { count := 2, left := digit % 16, bytes := byte 2 }
  | 2 => { count := 3, left := digit % 4, bytes := byte 4 }
  | _ => { count := 0, left := 0, bytes := byte 6 }

/-- Other characters between the digits are passed over; padding ends the text once the group is
full. -/
def decodeBase64 (s : Base64State) : List Char → Option (List UInt8)
  | [] => if s.count = 0 then some s.bytes else none
  | c :: rest =>
    if c = '=' then
      let padding := if 2 ≤ s.count then s.padding + 1 else s.padding
      if 2 ≤ s.count ∧ 4 ≤ s.count + padding then some s.bytes
      else decodeBase64 { s with padding } rest
    else match base64Digit? c with
      | none => decodeBase64 s rest
      | some digit => decodeBase64 (s.add digit) rest

def readBinary (s : String) : Except Error (List UInt8) :=
  if s.toList.all (·.toNat < 0x80) then
    match decodeBase64 {} s.toList with
    | some decoded => .ok decoded
    | none => .error .malformed
  else .error .malformed

/-- The value of a scalar of a type. -/
def read (tag : Tag) (s : Text.Wide) : Except Error Scalar :=
  match tag with
  | .null => .ok .null
  | .bool => ((readBool s.signs).map .bool).mapError .fault
  | .integer => ((readInteger s.signs).map .integer).mapError .fault
  | .float => ((readFloat s.signs).map .float).mapError .fault
  | .binary => (readBinary s.signs).map .bytes
  | .timestamp => ((readTimestamp s.signs).map .timestamp).mapError .fault
  | .text => .ok (.text s)
  | _ => .error .malformed

/-- Whether a value counts as something rather than nothing. -/
def isTrue : Scalar → Bool
  | .null => false
  | .bool b => b
  | .integer n => n != 0
  | .float x => !x.isZero
  | .text s => !s.isEmpty
  | .bytes content => !content.isEmpty
  | .timestamp _ => true

/-- The value of a number as a signed fraction. -/
def fraction? : Scalar → Option (Int × Nat)
  | .bool b => some (if b then 1 else 0, 1)
  | .integer n => some (n, 1)
  | .float x => x.fraction?
  | _ => none

/-- Whether two keys are the same. Numbers are compared by their value. -/
def sameKey (a b : Scalar) : Bool :=
  match a.fraction?, b.fraction? with
  | some x, some y => x.1 * y.2 == y.1 * x.2
  | none, none =>
    match a, b with
    | .timestamp s, .timestamp t => s.same t
    | .float .nan, .float .nan => false
    | _, _ => a == b
  | _, _ => false

def byteEscape (mark : Char) (b : UInt8) : List Char :=
  let n := b.toNat
  if n = mark.toNat ∨ n = 0x5c then ['\\', Char.ofNat n]
  else if n = 0x09 then ['\\', 't']
  else if n = 0x0a then ['\\', 'n']
  else if n = 0x0d then ['\\', 'r']
  else if 0x20 ≤ n ∧ n < 0x7f then [Char.ofNat n]
  else '\\' :: 'x' :: Text.hexDigits 2 n

/-- Bytes in quotes, with a letter in front. -/
def describeBytes (content : List UInt8) : String :=
  let mark := if content.contains 0x27 && !content.contains 0x22 then '"' else '\''
  String.ofList ('b' :: mark :: (content.flatMap (byteEscape mark) ++ [mark]))

/-- A value as it is shown inside a collection. -/
def describe : Scalar → Except Fault String
  | .null => .ok "None"
  | .bool b => .ok (if b then "True" else "False")
  | .integer n =>
    if maxDecimalDigits < (Nat.toDigits 10 n.natAbs).length then .error .noValue else .ok s!"{n}"
  | .float x => .ok (shown x)
  | .text s => .ok s.quoted
  | .bytes content => .ok (describeBytes content)
  | .timestamp t => .ok t.describe

/-- A value as text. -/
def asText : Scalar → Except Fault Text.Wide
  | .text s => .ok s
  | .timestamp t => .ok t.text
  | s => s.describe.map .plain

end Scalar

end PascalWorkspace.Yaml
