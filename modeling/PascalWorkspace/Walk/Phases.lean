import PascalWorkspace.Define.Publication
import PascalWorkspace.Package.Merge
import PascalWorkspace.Package.Repair
import PascalWorkspace.Walk.Visit

/-! The three walks of a scan: registering and resolving every manifest, repairing what could not be
found, and publishing search paths directory by directory. A directory or a manifest that cannot be
read is reported and left out. -/
namespace PascalWorkspace

namespace Workspace

/-- The packages of the manifests of a directory, with something done to each as soon as it is
registered. -/
def forManifests (source : ManifestSource) (act : Package → Action Unit) (reporter : Reporter) :
    List Path → Action (List Package)
  | [] => return []
  | manifest :: rest => do
    match ← tryRegister source manifest.toString with
    | .error reason =>
      report .warning reporter s!"Skipping manifest {reason}"
      forManifests source act reporter rest
    | .ok p =>
      act p
      let packages ← forManifests source act reporter rest
      return p :: packages

/-- The manifests that a visit lists. A directory that the operating system refuses has none. -/
def listedManifests (reporter : Reporter) (v : Visit) : Action (List Path) :=
  match v.manifests with
  | .ok manifests => return manifests
  | .error (.refused e path) => do
    report .warning reporter s!"Skipping {v.directory}: {(PathError.refused e path).message}"
    return []
  | .error e => throw (.badPath e)

/-- The packages of all manifests on the way, with something done to each in turn. -/
def forPackages (source : ManifestSource) (act : Package → Action Unit) :
    List Visit → Action (List Package)
  | [] => return []
  | v :: rest => do
    let manifests ← listedManifests .walk v
    let packages ← forManifests source act .walk manifests
    let others ← forPackages source act rest
    return packages ++ others

/-- The packages of the manifests below a directory. -/
def packagesBelow (h : Host) (source : ManifestSource) (ignored : List String)
    (directory : Path) : Action (List Package) :=
  forPackages source (fun _ => pure ()) (Visit.all h ignored directory)

/-- Registers and resolves all manifests below a directory, and counts them. -/
def resolveBelow (h : Host) (source : ManifestSource) (ignored : List String)
    (directory : Path) : Action Nat := do
  let packages ← forPackages source (fun p => resolve source p.manifest)
    (Visit.all h ignored directory)
  return packages.length

/-- Repairs the packages of all manifests below a directory, and counts them. -/
def repairBelow (h : Host) (source : ManifestSource) (ignored : List String)
    (directory : Path) : Action Nat := do
  let packages ← forPackages source (fun p => repair p.manifest) (Visit.all h ignored directory)
  return packages.length

def mergePaths (key : String) : Action Unit := changeRegistry (·.mergePaths key)

def publish (key : String) : Action Unit :=
  modify fun w =>
    let (registry, defines) := w.registry.publish w.defines key
    { w with registry, defines }

def publishAndReport (p : Package) : Action Unit := do
  publish p.manifest
  let units := ((← get).registry.find? p.manifest).elim [] (·.mergedPaths.units)
  let text := ";".intercalate units
  report .debug .publication s!"  UnitPath of {p.name}: {text}"

/-- Publishes a directory: itself first, then the packages of its manifests. -/
def publishVisit (h : Host) (source : ManifestSource) (v : Visit) : Action Unit := do
  report .debug .publication s!"--- {v.directory} ---"
  let directory ← ofPathResult (h.canonical v.directory.toString)
  addNode (directoryNode directory)
  let manifests ← listedManifests .publication v
  let packages ← forManifests source (fun _ => pure ()) .publication manifests
  packages.forM fun p => mergePaths p.manifest
  packages.forM publishAndReport

/-- Publishes every directory below a directory. -/
def publishBelow (h : Host) (source : ManifestSource) (ignored : List String)
    (directory : Path) : Action Unit :=
  (Visit.all h ignored directory).forM (publishVisit h source)

end Workspace

end PascalWorkspace
