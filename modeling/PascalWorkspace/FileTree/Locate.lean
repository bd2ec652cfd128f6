import PascalWorkspace.FileTree.Basic

/-! How the operating system follows a path: one name at a time, every symbolic link replaced by its
target, at most forty of them. -/
namespace PascalWorkspace

namespace FileTree

/-- The longest file name, in bytes. -/
def maxNameBytes : Nat := 255

/-- The number of links followed before a path is refused. -/
def maxLinks : Nat := 40

/-- The names of a link's target; a slash at its end asks for a directory, as a dot does. -/
def targetSteps (target : String) : List String :=
  let steps := (Path.pieces target).filter (· ≠ "")
  if target.toList.getLast? = some '/' then steps ++ ["."] else steps

def isRooted (target : String) : Bool := (Path.ofString target).isAbsolute

/-- Why nothing can be looked for in a place that is no open directory. -/
def refusalAt (t : FileTree) (loc : Location) : FileError :=
  if t.entryAt loc = some .closedDirectory then .denied else .notDirectory

/-- Follows the steps from a location. `links` more links may be followed. -/
def follow (t : FileTree) : Nat → Location → List String → Except FileError Location
  | _, loc, [] => .ok loc
  | links, loc, name :: rest =>
    if t.entryAt loc ≠ some .directory then .error (t.refusalAt loc)
    else if name = "." then follow t links loc rest
    else if name = ".." then follow t links loc.dropLast rest
    else if maxNameBytes < name.utf8ByteSize then .error .nameTooLong
    else match t.entryAt (loc ++ [name]) with
      | none => .error .notFound
      | some (.link target) =>
        match links with
        | 0 => .error .tooManyLinks
        | links + 1 =>
          follow t links (if isRooted target then [] else loc) (targetSteps target ++ rest)
      | some _ => follow t links (loc ++ [name]) rest
  termination_by links _ steps => (links, steps.length)

/-- A bound on the absolute paths without dots that lead anywhere. Every component names an entry;
it is a link, of which there are not too many, or goes down by one. -/
def pathBound (t : FileTree) : Nat :=
  2 * Nat.pow (t.entries.length + 1) ((maxLinks + 1) * (t.depth + 1))

/-- Where the steps of a path lead, links at the end included. -/
def locate (t : FileTree) (start : Location) (steps : List String) : Except FileError Location :=
  t.follow maxLinks start steps

end FileTree

end PascalWorkspace
