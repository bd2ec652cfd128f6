import PascalWorkspace.Json.Value

/-! Writing JSON: on one line, or with every item on a line of its own. -/
namespace PascalWorkspace.Json

structure Style where
  /-- The number of blanks that each level is indented by, if items stand on lines of their own. -/
  indent : Option Nat
  /-- Whether all that is not ASCII is written as an escape. -/
  asciiOnly : Bool

namespace Style

/-- A value in one line. -/
def line : Style := ⟨none, true⟩

/-- A value for people, in ASCII. -/
def blockAscii : Style := ⟨some 2, true⟩

/-- A value for people. -/
def block : Style := ⟨some 2, false⟩

end Style

def unitEscape (n : Nat) : List Char := '\\' :: 'u' :: Text.hexDigits 4 n

/-- A character as one or two escaped UTF-16 units. -/
def unicodeEscape (n : Nat) : List Char :=
  if n < 0x10000 then unitEscape n
  else unitEscape (0xD800 + (n - 0x10000) / 0x400) ++ unitEscape (0xDC00 + (n - 0x10000) % 0x400)

def escapeChar (asciiOnly : Bool) (c : Char) : List Char :=
  if c = '"' ∨ c = '\\' then ['\\', c]
  else if c = '\n' then ['\\', 'n']
  else if c = '\r' then ['\\', 'r']
  else if c = '\t' then ['\\', 't']
  else if c = '\x08' then ['\\', 'b']
  else if c = '\x0c' then ['\\', 'f']
  else if c.toNat < 0x20 ∨ asciiOnly ∧ 0x7f ≤ c.toNat then unicodeEscape c.toNat
  else [c]

/-- Half of a pair has a unit of its own. -/
def escapePoint (asciiOnly : Bool) (p : Text.CodePoint) : List Char :=
  match p with
  | .char c => escapeChar asciiOnly c
  | .half _ => unitEscape p.number

def writeText (asciiOnly : Bool) (s : Text.Wide) : String :=
  String.ofList ('"' :: (s.points.flatMap (escapePoint asciiOnly) ++ ['"']))

/-- The digits of a number, with a point in front of the last `decimals` of them. -/
def writeNumber (mantissa : Int) (decimals : Nat) : String :=
  if decimals = 0 then s!"{mantissa}"
  else
    let sign := if mantissa < 0 then "-" else ""
    let unit := Nat.pow 10 decimals
    let whole := mantissa.natAbs / unit
    let rest := Nat.toDigits 10 (mantissa.natAbs % unit)
    let zeros := List.replicate (decimals - rest.length) '0'
    s!"{sign}{whole}." ++ String.ofList (zeros ++ rest)

/-- What stands in front of each item at a level of indentation. -/
def lineBreak (style : Style) (level : Nat) : String :=
  match style.indent with
  | none => ""
  | some width => "\n" ++ String.ofList (List.replicate (width * level) ' ')

def itemSeparator (style : Style) : String := if style.indent.isSome then "," else ", "

/-- Items between two brackets; no items leave nothing between them. -/
def bracketed (style : Style) (level : Nat) (opening closing : String) (items : List String) :
    String :=
  if items.isEmpty then opening ++ closing
  else
    let separator := itemSeparator style ++ lineBreak style (level + 1)
    opening ++ lineBreak style (level + 1) ++ separator.intercalate items ++
      lineBreak style level ++ closing

def writeAt (style : Style) (level : Nat) : Value → String
  | .null => "null"
  | .bool true => "true"
  | .bool false => "false"
  | .number mantissa decimals => writeNumber mantissa decimals
  | .text s => writeText style.asciiOnly s
  | .array items => bracketed style level "[" "]" (writeItems items)
  | .object members => bracketed style level "\x7b" "\x7d" (writeMembers members)
where
  writeItems : List Value → List String
    | [] => []
    | v :: rest => writeAt style (level + 1) v :: writeItems rest
  writeMembers : Members → List String
    | [] => []
    | (name, v) :: rest =>
      (writeText style.asciiOnly name ++ ": " ++ writeAt style (level + 1) v) :: writeMembers rest

def write (style : Style) (v : Value) : String := writeAt style 0 v

end PascalWorkspace.Json
