import PascalWorkspace.Xml.Name

/-! The small parts of XML: white space, quoted literals, references, comments and processing
instructions. Each reader takes what it reads off the front and gives back the rest. -/
namespace PascalWorkspace.Xml

abbrev Chars := List Char

def isSpace (c : Char) : Bool := c == ' ' || c == '\t' || c == '\n' || c == '\r'

def skipSpace (cs : Chars) : Chars := cs.dropWhile isSpace

/-- At least one space. -/
def needSpace : Chars → Option Chars
  | c :: rest => if isSpace c then some (skipSpace rest) else none
  | [] => none

/-- The rest behind a given beginning. -/
def drop? : Chars → Chars → Option Chars
  | [], cs => some cs
  | x :: xs, c :: cs => if x = c then drop? xs cs else none
  | _ :: _, [] => none

/-- What stands before the first occurrence of a marker, and what stands behind it. -/
def splitAt? (marker : Chars) : Chars → Option (Chars × Chars)
  | [] => none
  | c :: rest =>
    match drop? marker (c :: rest) with
    | some after => some ([], after)
    | none => (splitAt? marker rest).map fun (before, after) => (c :: before, after)

/-- A text in apostrophes or double quotes. -/
def takeQuoted : Chars → Option (Chars × Chars)
  | q :: rest =>
    if q = '"' ∨ q = '\'' then
      match rest.dropWhile (· ≠ q) with
      | _ :: after => some (rest.takeWhile (· ≠ q), after)
      | [] => none
    else none
  | [] => none

/-- Characters that a document may hold. -/
def isXmlChar (c : Char) : Bool :=
  isSpace c || (0x20 ≤ c.toNat && c.toNat ≠ 0xFFFE && c.toNat ≠ 0xFFFF)

/-- What follows an ampersand. -/
inductive Reference where
  | char (c : Char)
  | entity (name : Chars)
  deriving DecidableEq, Repr

def digitValue (c : Char) : Option Nat :=
  if c.isDigit then some (c.toNat - '0'.toNat)
  else if 'a' ≤ c ∧ c ≤ 'f' then some (c.toNat - 'a'.toNat + 10)
  else if 'A' ≤ c ∧ c ≤ 'F' then some (c.toNat - 'A'.toNat + 10)
  else none

/-- The number that digits of a base stand for. -/
def number? (base : Nat) (digits : Chars) : Option Nat :=
  if digits.isEmpty then none
  else digits.foldlM (fun n c =>
    match digitValue c with
    | some d => if d < base then some (n * base + d) else none
    | none => none) 0

def charOfNumber (n : Nat) : Option Char :=
  if n < 0xD800 ∨ (0xDFFF < n ∧ n < 0x110000) then
    if isXmlChar (Char.ofNat n) then some (Char.ofNat n) else none
  else none

def takeReference (cs : Chars) : Option (Reference × Chars) :=
  match cs with
  | '#' :: 'x' :: rest => do
    let (digits, rest) ← splitAt? [';'] rest
    return (.char (← charOfNumber (← number? 16 digits)), rest)
  | '#' :: rest => do
    let (digits, rest) ← splitAt? [';'] rest
    return (.char (← charOfNumber (← number? 10 digits)), rest)
  | _ => do
    let (name, rest) ← takeName cs
    let rest ← drop? [';'] rest
    return (.entity name, rest)

def predefined (name : Chars) : Option Char :=
  match String.ofList name with
  | "amp" => some '&'
  | "lt" => some '<'
  | "gt" => some '>'
  | "quot" => some '"'
  | "apos" => some '\''
  | _ => none

/-- The rest behind a comment whose opening has been read. Two hyphens may only end it. -/
def skipComment (cs : Chars) : Option Chars := do
  let (_, rest) ← splitAt? ['-', '-'] cs
  drop? ['>'] rest

def isReservedTarget (name : Chars) : Bool := name.map Char.toLower == ['x', 'm', 'l']

/-- The rest behind a processing instruction whose opening has been read. -/
def skipInstruction (cs : Chars) : Option Chars := do
  let (target, rest) ← takeName cs
  if isReservedTarget target then none
  else match drop? ['?', '>'] rest with
    | some rest => some rest
    | none => do
      let rest ← needSpace rest
      let (_, rest) ← splitAt? ['?', '>'] rest
      return rest

end PascalWorkspace.Xml
