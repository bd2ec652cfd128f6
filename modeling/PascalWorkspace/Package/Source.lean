import PascalWorkspace.Failure
import PascalWorkspace.Manifest.Reading

/-! Where manifests are read: the files of a host, or a table in memory. -/
namespace PascalWorkspace

structure ManifestSource where
  /-- The one spelling under which a manifest is registered. -/
  canonical : String → Except PathError String
  read : String → Except Failure Manifest
  /-- A bound on the canonical paths under which a manifest can be read. -/
  capacity : Nat

namespace ManifestSource

def ofHost (h : Host) : ManifestSource where
  canonical := h.canonical
  read path := readManifest h (Path.ofString path)
  capacity := h.tree.pathBound

/-- Manifests in memory, by the canonical spelling of their paths. -/
def ofTable (h : Host) (table : List (String × Manifest)) : ManifestSource where
  canonical := h.canonical
  read path :=
    match table.lookup path with
    | some manifest => .ok manifest
    | none => .error (.manifest path .unknownManifest)
  capacity := table.length

end ManifestSource

end PascalWorkspace
