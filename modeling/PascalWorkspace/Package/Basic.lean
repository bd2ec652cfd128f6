import PascalWorkspace.Manifest.Basic

/-! Packages as a workspace knows them: what the manifest declares, and what has been found out
since. Other packages are named by the path of their manifest. -/
namespace PascalWorkspace

/-- A required package and, once it is found, the manifest it leads to. -/
structure Dependency extends Requirement where
  target : Option String := none
  deriving DecidableEq, Repr

def Dependency.isResolved (d : Dependency) : Bool := d.target.isSome

/-- A name that letters of either case spell alike. -/
def sameName (a b : String) : Bool := Text.lowercase a == Text.lowercase b

structure Package where
  /-- The canonical path of the manifest, under which the package is registered. -/
  manifest : String
  name : String
  directory : String
  paths : SearchPaths
  dependencies : List Dependency
  /-- The packages that were found to need this one, once for each time. -/
  requiredBy : List String := []
  /-- The search paths together with those of the packages needed. -/
  mergedPaths : SearchPaths := {}
  isResolved : Bool := false
  isMerged : Bool := false
  isPublished : Bool := false
  deriving DecidableEq, Repr

namespace Package

def ofManifest (path : String) (m : Manifest) : Package where
  manifest := path
  name := m.name
  directory := m.directory
  paths := m.paths
  dependencies := m.requirements.map fun r => { r with }

/-- The manifests of the packages that are needed and found. -/
def targets (p : Package) : List String := p.dependencies.filterMap (·.target)

def withTarget (p : Package) (index : Nat) (target : String) : Package :=
  { p with dependencies := p.dependencies.modify index fun d => { d with target := some target } }

/-- The target of the first dependency of a name that has one. -/
def targetOf? (p : Package) (name : String) : Option String :=
  (p.dependencies.find? fun d => d.isResolved && sameName d.name name).bind (·.target)

/-- How a package is shown in diagnostics. -/
def describe (p : Package) : String :=
  s!"Package({Text.quoted p.name}, {Text.quoted p.manifest})"

end Package

end PascalWorkspace
