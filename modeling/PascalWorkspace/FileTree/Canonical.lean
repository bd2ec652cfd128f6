import PascalWorkspace.FileTree.Locate

/-! The canonical spelling of a path: links are replaced one by one, a double dot goes up from the
place reached so far, and missing names are kept. A link met again while its own target is still
being followed ends the search; what is left of the path then stays as written. -/
namespace PascalWorkspace

namespace FileTree

/-- A place on the way, by the path that is spelled for it. -/
structure Place where
  /-- How many names of the working directory are left in front of a relative path. An absolute path
  has none of them. -/
  kept : Option Nat
  location : Location
  deriving DecidableEq, Repr

def Place.up (p : Place) : Place :=
  let location := p.location.dropLast
  { kept := p.kept.map (min · location.length), location }

/-- What is still to be done: a name to go down by, or a link whose target ends here. -/
inductive Task where
  | step (name : String)
  | linkDone (link : Place)
  deriving DecidableEq, Repr

/-- The outcome of a link met before: where it leads, or nothing while it is still followed. -/
abbrev Visited := List (Place × Option Place)

def Visited.find (seen : Visited) (p : Place) : Option (Option Place) :=
  (seen.find? (·.1 == p)).map (·.2)

/-- The remaining steps, cut where the target of a link ends. -/
def remainders : List Task → List (List String)
  | [] => [[]]
  | .linkDone _ :: rest => [] :: remainders rest
  | .step name :: rest =>
    match remainders rest with
    | [] => [[name]]
    | steps :: more => (name :: steps) :: more

/-- Puts a remaining text behind a path; a text that begins with a slash replaces it. -/
def appendText (path rest : String) : String :=
  if rest.startsWith "/" then rest
  else if path = "" || path.endsWith "/" then path ++ rest
  else path ++ "/" ++ rest

def rootedText (loc : Location) : String := "/" ++ "/".intercalate loc

/-- The text left when a link leads back to itself. -/
def stuckText (loc : Location) (tasks : List Task) : String :=
  ((remainders tasks).map ("/".intercalate ·)).foldl appendText (rootedText loc)

/-- Goes up for every double dot without looking at the tree. -/
def collapse : List String → List String → List String
  | done, [] => done.reverse
  | done, ".." :: rest => collapse done.tail rest
  | done, name :: rest => collapse (name :: done) rest

/-- The spelling left for a path that a link makes endless. -/
def stuckPath (place : Place) (tasks : List Task) : Path :=
  let left := Path.ofString (stuckText place.location tasks)
  { left with parts := collapse [] left.parts }

def trace (t : FileTree) : Nat → Visited → Place → List Task → Path
  | _, _, place, [] => ⟨.root, place.location⟩
  | fuel, seen, place, .linkDone link :: tasks =>
    trace t fuel ((link, some place) :: seen) place tasks
  | fuel, seen, place, .step name :: tasks =>
    if name = "" || name = "." then trace t fuel seen place tasks
    else if name = ".." then trace t fuel seen place.up tasks
    else
      let next : Place := { place with location := place.location ++ [name] }
      match t.entryAt next.location with
      | some (.link target) =>
        match seen.find next with
        | some (some reached) => trace t fuel seen reached tasks
        | some none => stuckPath next tasks
        | none =>
          match fuel with
          | 0 => stuckPath next tasks
          | fuel + 1 =>
            let origin : Place := if isRooted target then ⟨none, []⟩ else place
            trace t fuel ((next, none) :: seen) origin
              ((Path.pieces target).map .step ++ .linkDone next :: tasks)
      | _ => trace t fuel seen next tasks
  termination_by fuel _ _ tasks => (fuel, tasks.length)

/-- The canonical spelling of a path. A link is followed once under each path that is spelled for it,
of which there is one from the root and one for each number of names of the working directory. -/
def canonicalPath (t : FileTree) (cwd : Location) (p : Path) : Path :=
  let origin : Place := if p.isAbsolute then ⟨none, []⟩ else ⟨some cwd.length, cwd⟩
  t.trace ((origin.kept.getD 0 + 2) * t.linkCount) [] origin (p.parts.map .step)

end FileTree

end PascalWorkspace
