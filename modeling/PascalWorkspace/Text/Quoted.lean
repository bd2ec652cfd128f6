import PascalWorkspace.Text.Printable

/-! Text in quotes, as diagnostics show it. Apostrophes stand around the text unless it holds an
apostrophe and no double quote; what has no visible form is written as an escape. -/
namespace PascalWorkspace.Text

def hexDigit (n : Nat) : Char := Nat.digitChar (n % 16)

/-- The last `width` hexadecimal digits of `n`. -/
def hexDigits : Nat → Nat → List Char
  | 0, _ => []
  | width + 1, n => hexDigits width (n / 16) ++ [hexDigit n]

/-- A numeric escape is as short as its code point allows: two, four or eight digits. -/
def numericEscape (n : Nat) : List Char :=
  if n < 0x100 then '\\' :: 'x' :: hexDigits 2 n
  else if n < 0x10000 then '\\' :: 'u' :: hexDigits 4 n
  else '\\' :: 'U' :: hexDigits 8 n

def quoteMark (cs : List Char) : Char :=
  if cs.contains '\'' && !cs.contains '"' then '"' else '\''

def escapeChar (mark c : Char) : List Char :=
  if c = mark ∨ c = '\\' then ['\\', c]
  else if c = '\n' then ['\\', 'n']
  else if c = '\r' then ['\\', 'r']
  else if c = '\t' then ['\\', 't']
  else if isPrintable c then [c]
  else numericEscape c.toNat

def quotedChars (cs : List Char) : List Char :=
  quoteMark cs :: (cs.flatMap (escapeChar (quoteMark cs)) ++ [quoteMark cs])

def quoted (s : String) : String := String.ofList (quotedChars s.toList)

end PascalWorkspace.Text
