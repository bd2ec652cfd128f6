import PascalWorkspace.Host.Basic

/-! What a package or project file declares: a name, three lists of search paths and the packages it
requires. -/
namespace PascalWorkspace

/-- The lists are never cleared of repetitions. -/
structure SearchPaths where
  units : List String := []
  includes : List String := []
  sources : List String := []
  deriving DecidableEq, Repr

def SearchPaths.append (a b : SearchPaths) : SearchPaths :=
  ⟨a.units ++ b.units, a.includes ++ b.includes, a.sources ++ b.sources⟩

instance : Append SearchPaths := ⟨SearchPaths.append⟩

/-- A required package as written. -/
structure Requirement where
  name : String
  /-- Where its manifest is said to be, or the empty text. -/
  hint : String
  /-- The hint counts for more than a package of that name found elsewhere. -/
  prefer : Bool
  deriving DecidableEq, Repr

structure Manifest where
  name : String
  directory : String
  paths : SearchPaths
  requirements : List Requirement
  deriving DecidableEq, Repr

/-- What is wrong with a manifest. -/
inductive ManifestFault where
  | unreadable (error : FileError)
  | notWellFormed
  | unexpectedRoot (tag : String)
  | noPackageSection
  /-- The suffix is that of neither kind of manifest. -/
  | unknownKind
  /-- A path written in it leads into a loop or cannot be asked about. -/
  | unresolvable (error : PathError)
  /-- There is no manifest of that path in memory. -/
  | unknownManifest
  deriving DecidableEq, Repr

/-- What is reported of a fault; the details of a text that is not XML are left out. -/
def ManifestFault.reason (path : String) : ManifestFault → String
  | .unreadable e => (PathError.refused e path).message
  | .notWellFormed => "<xml>"
  | .unexpectedRoot tag => s!"unexpected root element <{tag}>"
  | .noPackageSection => "missing <Package> section"
  | .unknownKind => "not a project or package file"
  | .unresolvable e => s!"cannot resolve search paths: {e.message}"
  | .unknownManifest => "no such manifest"

inductive ManifestKind where
  | package
  | project
  deriving DecidableEq, Repr

def ManifestKind.ofExtension (extension : String) : Option ManifestKind :=
  if extension = ".lpk" then some .package
  else if extension = ".lpi" then some .project
  else none

def isManifest (p : Path) : Bool := (ManifestKind.ofExtension p.extension).isSome

end PascalWorkspace
