import PascalWorkspace.Text.Lowercase

/-! Slash-separated paths as text: where a path is anchored and its components, in the normal form
that drops empty and single-dot components and keeps double dots. -/
namespace PascalWorkspace

/-- A path that begins with exactly two slashes is kept apart from one that begins with one. -/
inductive Anchor where
  | relative
  | root
  | doubleRoot
  deriving DecidableEq, Repr

structure Path where
  anchor : Anchor
  parts : List String
  deriving DecidableEq, Repr

namespace Path

/-- The pieces of a text between separators; there is one more piece than there are separators. -/
def splitChars (sep : Char) : List Char → List (List Char)
  | [] => [[]]
  | c :: rest =>
    if c = sep then [] :: splitChars sep rest
    else match splitChars sep rest with
      | [] => [[c]]
      | piece :: pieces => (c :: piece) :: pieces

def pieces (s : String) : List String := (splitChars '/' s.toList).map String.ofList

def isPlainPart (s : String) : Bool := s != "" && s != "."

def anchorOfChars : List Char → Anchor
  | '/' :: '/' :: '/' :: _ => .root
  | '/' :: '/' :: _ => .doubleRoot
  | '/' :: _ => .root
  | _ => .relative

def ofString (s : String) : Path := ⟨anchorOfChars s.toList, (pieces s).filter isPlainPart⟩

def anchorText : Anchor → String
  | .relative => ""
  | .root => "/"
  | .doubleRoot => "//"

/-- The empty relative path is written as a dot. -/
def toString (p : Path) : String :=
  match p.anchor, p.parts with
  | .relative, [] => "."
  | a, parts => anchorText a ++ "/".intercalate parts

instance : ToString Path := ⟨toString⟩

/-- An absolute right-hand side replaces the left-hand side. -/
def join (p q : Path) : Path :=
  match q.anchor with
  | .relative => { p with parts := p.parts ++ q.parts }
  | _ => q

def child (p : Path) (name : String) : Path := p.join (ofString name)

/-- A path without components is its own parent. -/
def parent (p : Path) : Path := { p with parts := p.parts.dropLast }

/-- The last component, empty for a path without components. -/
def name (p : Path) : String := p.parts.getLast?.getD ""

/-- A name up to its last dot, and the rest from that dot on. There is no suffix when the dot is the
first or the last character. -/
def splitSuffix (name : List Char) : List Char × List Char :=
  let reversed := name.reverse
  let tail := reversed.takeWhile (· ≠ '.')
  match reversed.dropWhile (· ≠ '.') with
  | '.' :: stem =>
    if stem.isEmpty || tail.isEmpty then (name, []) else (stem.reverse, '.' :: tail.reverse)
  | _ => (name, [])

def stem (p : Path) : String := String.ofList (splitSuffix p.name.toList).1

def suffix (p : Path) : String := String.ofList (splitSuffix p.name.toList).2

/-- The suffix in lower case, by which kinds of files are told apart. -/
def extension (p : Path) : String := Text.lowercase p.suffix

def isAbsolute (p : Path) : Bool := p.anchor != .relative

/-- Whether `q` is `p` or lies below it, component by component. -/
def covers (p q : Path) : Bool := p.anchor == q.anchor && p.parts.isPrefixOf q.parts

end Path

end PascalWorkspace
