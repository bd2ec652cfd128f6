import PascalWorkspace.Yaml.Token

/-! The text of scalars: plain, between quotes, and in indented blocks. Line breaks within a scalar
are folded: one becomes a blank, of more than one the first is dropped. -/
namespace PascalWorkspace.Yaml

open Text (CodePoint)

/-- What the breaks between two lines leave: the first one, then those of empty lines. -/
def folded (first : Char) (others : List Char) : List Char :=
  if first ≠ '\n' then first :: others
  else if others.isEmpty then [' ']
  else others

namespace Plain

def flowIndicators : List Char := [',', '[', ']', '\x7b', '\x7d']

/-- Whether a plain scalar ends in front of a character with another behind it. -/
def stops (flow : Bool) (c next : Char) : Bool :=
  endsToken c ||
    (c == ':' && (endsToken next || flow && flowIndicators.contains next)) ||
    (flow && (c == '?' || flowIndicators.contains c))

def word (flow : Bool) : List Char → List Char
  | [] => []
  | c :: rest => if stops flow c (rest.headD '\x00') then [] else c :: word flow rest

/-- The empty lines behind a line break, unless a document mark follows them. -/
def emptyLines : Nat → List Char → Cursor → Option (List Char) × Cursor
  | 0, breaks, c => (some breaks, c)
  | fuel + 1, breaks, c =>
    if c.peek = ' ' then emptyLines fuel breaks c.next
    else match c.lineBreak? with
      | none => (some breaks, c)
      | some (b, c) =>
        if c.atDocumentMark then (none, c) else emptyLines fuel (breaks ++ [b]) c

/-- What stands between two words; nothing if the scalar ends here. -/
structure Gap where
  text : List Char
  /-- Whether the gap reaches over the end of a line. -/
  breaksLine : Bool
  place : Cursor

def gap (c : Cursor) : Gap :=
  let (blanks, c) := c.span (· == ' ')
  match c.lineBreak? with
  | none => ⟨blanks, false, c⟩
  | some (b, c) =>
    if c.atDocumentMark then ⟨[], true, c⟩
    else match emptyLines (c.rest.length + 1) [] c with
      | (none, c) => ⟨[], true, c⟩
      | (some breaks, c) => ⟨folded b breaks, true, c⟩

structure State where
  text : List Char
  spaces : List Char
  atLineStart : Bool
  place : Cursor

/-- Words and the gaps between them, down to an indentation outside of brackets. -/
def words (flow : Bool) (indent : Int) : Nat → State → State
  | 0, s => s
  | fuel + 1, s =>
    if s.place.peek = '#' then s
    else
      let found := word flow s.place.rest
      if found.isEmpty then s
      else
        let behind := gap (s.place.skip found.length)
        let next : State :=
          ⟨s.text ++ s.spaces ++ found, behind.text, behind.breaksLine, behind.place⟩
        if behind.text.isEmpty ∨ !flow ∧ (behind.place.column : Int) < indent then next
        else words flow indent fuel next

def read (flow : Bool) (indent : Int) (c : Cursor) : State :=
  words flow indent (c.rest.length + 1) ⟨[], [], false, c⟩

end Plain

namespace Quotes

/-- What the character behind a backslash stands for. -/
def replacement? : Char → Option Char
  | '0' => some '\x00'
  | 'a' => some '\x07'
  | 'b' => some '\x08'
  | 't' => some '\t'
  | '\t' => some '\t'
  | 'n' => some '\n'
  | 'v' => some '\x0b'
  | 'f' => some '\x0c'
  | 'r' => some '\r'
  | 'e' => some '\x1b'
  | ' ' => some ' '
  | '"' => some '"'
  | '\\' => some '\\'
  | '/' => some '/'
  | 'N' => some '\x85'
  | '_' => some '\xa0'
  | 'L' => some '\u2028'
  | 'P' => some '\u2029'
  | _ => none

/-- The number of digits of a numeric escape. -/
def codeLength? : Char → Option Nat
  | 'x' => some 2
  | 'u' => some 4
  | 'U' => some 8
  | _ => none

def hexDigit? (c : Char) : Option Nat :=
  if c.isDigit then some (c.toNat - '0'.toNat)
  else if 'a' ≤ c ∧ c ≤ 'f' then some (c.toNat - 'a'.toNat + 10)
  else if 'A' ≤ c ∧ c ≤ 'F' then some (c.toNat - 'A'.toNat + 10)
  else none

def hexNumber? (digits : List Char) : Option Nat :=
  digits.foldl (fun n c => n.bind fun n => (hexDigit? c).map (16 * n + ·)) (some 0)

/-- The greatest number that is taken for a code point at all. -/
def maxCodeNumber : Nat := 0x7fffffff

/-- An escape can stand for half of a surrogate pair; two halves are not put together. -/
def numericEscape (length : Nat) (c : Cursor) : Except Error (CodePoint × Cursor) :=
  let digits := c.rest.take length
  match hexNumber? digits with
  | none => .error .malformed
  | some code =>
    if digits.length < length then .error .malformed
    else if maxCodeNumber < code then .error (.fault .tooLarge)
    else match CodePoint.ofNumber? code with
      | some point => .ok (point, c.skip length)
      | none => .error (.fault .noValue)

/-- The breaks of empty lines; a document mark must not stand at the start of one. -/
def emptyLines : Nat → List Char → Cursor → Except Error (List Char × Cursor)
  | 0, breaks, c => .ok (breaks, c)
  | fuel + 1, breaks, c =>
    if c.atDocumentMark then .error .malformed
    else
      let c := c.skipWhile isSpace
      match c.lineBreak? with
      | none => .ok (breaks, c)
      | some (b, c) => emptyLines fuel (breaks ++ [b]) c

def escape (c : Cursor) : Except Error (List CodePoint × Cursor) :=
  match replacement? c.peek with
  | some char => .ok ([.char char], c.next)
  | none =>
    match codeLength? c.peek with
    | some length => (numericEscape length c.next).map fun r => ([r.1], r.2)
    | none =>
      match c.lineBreak? with
      | some (_, c) => (emptyLines (c.rest.length + 1) [] c).map fun r => (Text.ofChars r.1, r.2)
      | none => .error .malformed

/-- Blanks within a line are kept, those around a line break are not. -/
def gap (c : Cursor) : Except Error (List Char × Cursor) :=
  let (blanks, c) := c.span isSpace
  if c.rest.isEmpty then .error .malformed
  else match c.lineBreak? with
    | none => .ok (blanks, c)
    | some (b, c) => do
      let (breaks, c) ← emptyLines (c.rest.length + 1) [] c
      return (folded b breaks, c)

def isText (c : Char) : Bool := !(c == '\'' || c == '"' || c == '\\' || endsToken c)

/-- One piece of the text between quotes, or nothing at the closing quote. -/
def piece (double : Bool) (c : Cursor) : Except Error (Option (List CodePoint) × Cursor) :=
  let char := c.peek
  let itself (c : Cursor) : Except Error (Option (List CodePoint) × Cursor) :=
    .ok (some [.char char], c)
  if isText char then
    let (text, c) := c.span isText
    .ok (some (Text.ofChars text), c)
  else if char = '\'' then
    if double then itself c.next
    else if c.peekAt 1 = '\'' then itself (c.skip 2)
    else .ok (none, c.next)
  else if char = '"' then
    if double then .ok (none, c.next) else itself c.next
  else if char = '\\' then
    if double then (escape c.next).map fun r => (some r.1, r.2) else itself c.next
  else (gap c).map fun r => (some (Text.ofChars r.1), r.2)

def pieces (double : Bool) : Nat → List CodePoint → Cursor →
    Except Error (List CodePoint × Cursor)
  | 0, _, _ => .error .malformed
  | fuel + 1, text, c => do
    match ← piece double c with
    | (none, c) => return (text, c)
    | (some more, c) => pieces double fuel (text ++ more) c

/-- Reads from the opening quote on. -/
def read (c : Cursor) : Except Error (List CodePoint × Cursor) :=
  pieces (c.peek == '"') (c.rest.length + 1) [] c.next

end Quotes

namespace Block

/-- What becomes of the line breaks at the end. -/
inductive Chomping where
  | strip
  | clip
  | keep
  deriving DecidableEq, Repr

structure Header where
  chomping : Chomping
  /-- The indentation relative to that of the surroundings, if it is given. -/
  increment : Option Nat

def chomping? (c : Char) : Option Chomping :=
  if c = '+' then some .keep else if c = '-' then some .strip else none

def increment? (c : Char) : Option Nat := if c.isDigit then some (c.toNat - '0'.toNat) else none

def indicators (c : Cursor) : Option Chomping × Option Nat × Cursor :=
  match chomping? c.peek with
  | some chomping =>
    match increment? c.next.peek with
    | some n => (some chomping, some n, c.skip 2)
    | none => (some chomping, none, c.next)
  | none =>
    match increment? c.peek with
    | some n =>
      match chomping? c.next.peek with
      | some chomping => (some chomping, some n, c.skip 2)
      | none => (none, some n, c.next)
    | none => (none, none, c)

def header (c : Cursor) : Except Error (Header × Cursor) :=
  let (chomping, increment, c) := indicators c
  if increment = some 0 ∨ !endsWord c.peek then .error .malformed
  else match c.restOfLine? with
    | some c => .ok (⟨chomping.getD .clip, increment⟩, c)
    | none => .error .malformed

/-- Passes over empty lines: their breaks, and the greatest column reached. -/
def detectIndent : Nat → List Char → Nat → Cursor → List Char × Nat × Cursor
  | 0, breaks, greatest, c => (breaks, greatest, c)
  | fuel + 1, breaks, greatest, c =>
    if c.peek = ' ' then detectIndent fuel breaks (max greatest c.next.column) c.next
    else match c.lineBreak? with
      | none => (breaks, greatest, c)
      | some (b, c) => detectIndent fuel (breaks ++ [b]) greatest c

def skipIndent (indent : Nat) (c : Cursor) : Cursor :=
  let blanks := (c.rest.takeWhile (· == ' ')).length
  c.skip (min blanks (indent - c.column))

/-- The breaks of empty lines, with the indentation behind them passed over. -/
def emptyLines (indent : Nat) : Nat → List Char → Cursor → List Char × Cursor
  | 0, breaks, c => (breaks, c)
  | fuel + 1, breaks, c =>
    let c := skipIndent indent c
    match c.lineBreak? with
    | none => (breaks, c)
    | some (b, c) => emptyLines indent fuel (breaks ++ [b]) c

structure State where
  text : List Char
  /-- The break behind the last line. -/
  lastBreak : List Char
  /-- The breaks of empty lines behind it. -/
  breaks : List Char
  place : Cursor

def inBlock (indent : Nat) (c : Cursor) : Bool := c.column == indent && !c.rest.isEmpty

/-- What stands for the break between two lines. Lines that begin with a blank are not folded. -/
def joint (fold : Bool) (first : Bool) (s : State) : List Char :=
  if first then s.breaks
  else if fold ∧ s.lastBreak = ['\n'] then (if s.breaks.isEmpty then [' '] else s.breaks)
  else s.lastBreak ++ s.breaks

/-- The lines of the block. `fold` tells whether a break between two lines is folded, which also
depends on how the line in front begins. -/
def lines (fold : Bool) (indent : Nat) : Nat → (first frontFolds : Bool) → State → State
  | 0, _, _, s => s
  | fuel + 1, first, frontFolds, s =>
    if !inBlock indent s.place then s
    else
      let folds := !isSpace s.place.peek
      let front := joint (fold && frontFolds && folds) first s
      let (line, c) := s.place.span (!endsLine ·)
      let (lastBreak, c) := match c.lineBreak? with
        | some (b, c) => ([b], c)
        | none => ([], c)
      let (breaks, c) := emptyLines indent (c.rest.length + 1) [] c
      lines fold indent fuel false folds ⟨s.text ++ front ++ line, lastBreak, breaks, c⟩

/-- Reads from the indicator on, in surroundings of an indentation. -/
def read (surrounding : Int) (c : Cursor) : Except Error (List Char × Cursor) := do
  let fold := c.peek == '>'
  let (head, c) ← header c.next
  let least := (max 1 (surrounding + 1)).toNat
  let fuel := c.rest.length + 1
  let (breaks, indent, c) := match head.increment with
    | some n =>
      let indent := least + n - 1
      let (breaks, c) := emptyLines indent fuel [] c
      (breaks, indent, c)
    | none =>
      let (breaks, greatest, c) := detectIndent fuel [] 0 c
      (breaks, max least greatest, c)
  let s := lines fold indent fuel true false ⟨[], [], breaks, c⟩
  let tail := match head.chomping with
    | .strip => []
    | .clip => s.lastBreak
    | .keep => s.lastBreak ++ s.breaks
  return (s.text ++ tail, s.place)

end Block

end PascalWorkspace.Yaml
