import PascalWorkspace.Text.Lowercase
import PascalWorkspace.Text.Quoted
import PascalWorkspace.Text.Utf8

/-! Text that need not consist of characters. Messages and documents can write one half of a
surrogate pair without the other. No file holds it in UTF-8, but it is a text like any other until
it is encoded. -/
namespace PascalWorkspace.Text

/-- A character, or half of a surrogate pair. -/
inductive CodePoint where
  | char (c : Char)
  /-- The half with the code `0xD800 + n`. -/
  | half (n : Fin 0x800)
  deriving DecidableEq, Repr

namespace CodePoint

def isHalf : CodePoint → Bool
  | .char _ => false
  | .half _ => true

def number : CodePoint → Nat
  | .char c => c.toNat
  | .half n => 0xD800 + n

/-- The code point of a number, if there is one. -/
def ofNumber? (n : Nat) : Option CodePoint :=
  if h : 0xD800 ≤ n ∧ n < 0xE000 then some (.half ⟨n - 0xD800, by omega⟩)
  else if n < 0x110000 then some (.char (Char.ofNat n))
  else none

/-- A half looks like the replacement character to what looks for certain characters. -/
def sign : CodePoint → Char
  | .char c => c
  | .half _ => Utf8.replacement

/-- The byte that a half stands for in the name of a file: a byte that is no part of a character has
a half of its own. -/
def strayByte? : CodePoint → Option UInt8
  | .char _ => none
  | .half n => if 0x480 ≤ n.val ∧ n.val < 0x500 then some (UInt8.ofNat (n - 0x400)) else none

/-- Whether the name of a file can hold it. -/
def isEncodable (p : CodePoint) : Bool := !p.isHalf || p.strayByte?.isSome

end CodePoint

def ofChars (cs : List Char) : List CodePoint := cs.map .char

/-- Does the same to each run of characters between halves. -/
def mapRuns (f : List Char → List Char) : (run : List Char) → List CodePoint → List CodePoint
  | run, [] => ofChars (f run)
  | run, .char c :: rest => mapRuns f (run ++ [c]) rest
  | run, .half n :: rest => ofChars (f run) ++ .half n :: mapRuns f [] rest

/-! ### The names of files -/

/-- Names are texts here. A byte in one that is no part of a character is written as a character for
private use. -/
def strayChar (b : UInt8) : Char := Char.ofNat (0x10FF00 + b.toNat)

/-- Bytes of a name that were not read as characters may be characters all the same. -/
def strayChars (bytes : List UInt8) : List Char :=
  (Utf8.decode? bytes).getD (bytes.map strayChar)

/-- The name or path that the operating system is given, behind bytes that come before it. -/
def fileChars? : (bytes : List UInt8) → List CodePoint → Option (List Char)
  | bytes, [] => some (strayChars bytes)
  | bytes, .char c :: rest => (fileChars? [] rest).map fun cs => strayChars bytes ++ c :: cs
  | bytes, .half n :: rest => do
    let byte ← (CodePoint.half n).strayByte?
    fileChars? (bytes ++ [byte]) rest

/-- The name of a file that is listed as a text, if there can be one. -/
def listedChars? (points : List CodePoint) : Option (List Char) := points.mapM fun p =>
  match p with
  | .char c => some c
  | .half _ => p.strayByte?.map strayChar

/-! ### Texts -/

/-- Code points of which one at least is half of a pair. -/
structure Ragged where
  points : List CodePoint
  holdsHalf : points.any CodePoint.isHalf = true
  deriving DecidableEq, Repr

inductive Wide where
  | plain (s : String)
  | ragged (r : Ragged)
  deriving DecidableEq, Repr

namespace Wide

instance : Coe String Wide := ⟨.plain⟩

def points : Wide → List CodePoint
  | .plain s => ofChars s.toList
  | .ragged r => r.points

def ofPoints (points : List CodePoint) : Wide :=
  if h : points.any CodePoint.isHalf = true then .ragged ⟨points, h⟩
  else .plain (String.ofList (points.map CodePoint.sign))

def isEmpty : Wide → Bool
  | .plain s => s.isEmpty
  | .ragged _ => false

/-- The text as far as forms and words are concerned, none of which holds a half. -/
def signs : Wide → String
  | .plain s => s
  | .ragged r => String.ofList (r.points.map CodePoint.sign)

/-- The text as the name of a file that is listed. -/
def listed? : Wide → Option String
  | .plain s => some s
  | .ragged r => (listedChars? r.points).map String.ofList

def lowercase : Wide → Wide
  | .plain s => .plain (Text.lowercase s)
  | .ragged r =>
    ofPoints (mapRuns (fun cs => (Text.lowercase (String.ofList cs)).toList) [] r.points)

/-- The text as diagnostics show it, with a half as an escape. -/
def shown : Wide → String
  | .plain s => s
  | .ragged r => String.ofList (r.points.flatMap fun p =>
      match p with
      | .char c => [c]
      | .half _ => numericEscape p.number)

instance : ToString Wide := ⟨shown⟩

/-- The text in quotes. -/
def quoted (w : Wide) : String :=
  let mark := quoteMark (w.points.map CodePoint.sign)
  let escape (p : CodePoint) : List Char :=
    match p with
    | .char c => escapeChar mark c
    | .half _ => numericEscape p.number
  String.ofList (mark :: (w.points.flatMap escape ++ [mark]))

end Wide

end PascalWorkspace.Text
