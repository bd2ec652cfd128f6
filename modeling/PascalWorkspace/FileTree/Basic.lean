import PascalWorkspace.Path.Basic

/-! A file tree as a finite list of entries, each under the list of names that leads to it from the
root. The order of the list is the order in which a directory is enumerated. -/
namespace PascalWorkspace

/-- The names on the way down from the root; no links and no dots. -/
abbrev Location := List String

inductive Entry where
  | file (content : List UInt8)
  | directory
  | link (target : String)
  /-- A file that must not be read. -/
  | closedFile
  /-- A directory that must neither be searched nor listed. What is in it does not show. -/
  | closedDirectory
  deriving DecidableEq, Repr

@[simp] def Entry.isFile : Entry → Bool
  | .file _ | .closedFile => true
  | _ => false

@[simp] def Entry.isDirectory : Entry → Bool
  | .directory | .closedDirectory => true
  | _ => false

structure FileTree where
  entries : List (Location × Entry)
  deriving Repr

/-- Why the operating system refuses a path. -/
inductive FileError where
  | notFound
  | notDirectory
  | isDirectory
  | nameTooLong
  | tooManyLinks
  | denied
  deriving DecidableEq, Repr

namespace FileTree

def empty : FileTree := ⟨[]⟩

/-- The root is a directory in every tree. -/
def entryAt (t : FileTree) : Location → Option Entry
  | [] => some .directory
  | loc => (t.entries.find? (·.1 == loc)).map (·.2)

/-- The names in a directory, in enumeration order. -/
def childNames (t : FileTree) (loc : Location) : List String :=
  t.entries.filterMap fun e => if e.1.dropLast = loc then e.1.getLast? else none

/-- The length of the longest way down; no directory lies deeper. -/
def depth (t : FileTree) : Nat := t.entries.foldl (fun n e => max n e.1.length) 0

def linkCount (t : FileTree) : Nat :=
  t.entries.countP fun e => match e.2 with | .link _ => true | _ => false

/-- Replaces the entry at a location, or adds one at the end. -/
def put (t : FileTree) (loc : Location) (entry : Entry) : FileTree :=
  if t.entries.any (·.1 == loc) then
    ⟨t.entries.map fun e => if e.1 == loc then (loc, entry) else e⟩
  else ⟨t.entries ++ [(loc, entry)]⟩

/-- Removes what is at a location and everything below it. -/
def remove (t : FileTree) (loc : Location) : FileTree :=
  ⟨t.entries.filter fun e => !loc.isPrefixOf e.1⟩

end FileTree

end PascalWorkspace
