import PascalWorkspace.Manifest.Basic

/-! The way through the directories below a root: each directory before those in it, in the order of
their names. Links to directories are not followed, and some names are left out. -/
namespace PascalWorkspace

/-- Names of directories that hold backups or output. -/
def ignoredNames : List String := ["backup", "lib"]

/-- Parts of names that mark bundles and debug symbols. -/
def ignoredFragments : List String := [".dsym", ".app"]

def hasFragment (fragment : List Char) : List Char → Bool
  | [] => fragment.isEmpty
  | c :: rest => fragment.isPrefixOf (c :: rest) || hasFragment fragment rest

/-- Whether a walk leaves a directory and all below it out. The extra names are in lower case. -/
def isIgnored (extra : List String) (directory : Path) : Bool :=
  let name := Text.lowercase directory.name
  name.toList.head? == some '.' || ignoredNames.contains name || extra.contains name ||
    ignoredFragments.any fun fragment => hasFragment fragment.toList name.toList

namespace Host

def select (ask : Path → Except PathError Bool) : List Path → Except PathError (List Path)
  | [] => .ok []
  | p :: rest => do
    let yes ← ask p
    let others ← select ask rest
    return if yes then p :: others else others

/-- The children of a directory that pass a test, by name. -/
def childrenWhere (h : Host) (ask : Path → Except PathError Bool) (directory : Path) :
    Except PathError (List Path) := do
  let names ← h.childNames directory
  let chosen ← select ask (names.map directory.child)
  return chosen.mergeSort fun a b => decide (a.name ≤ b.name)

def isManifestFile (h : Host) (p : Path) : Except PathError Bool := do
  let file ← h.isFile p
  return file && isManifest p

/-- A path that exists and is not the name of a link. -/
def isRealDirectory (h : Host) (p : Path) : Except PathError Bool := do
  let directory ← h.isDirectory p
  return directory && !h.isLink p

/-- The manifests directly in a directory. -/
def manifestsIn (h : Host) (directory : Path) : Except PathError (List Path) :=
  h.childrenWhere h.isManifestFile directory

/-- The directories directly in a directory. -/
def subdirectoriesOf (h : Host) (directory : Path) : Except PathError (List Path) :=
  h.childrenWhere h.isRealDirectory directory

end Host

/-- A directory on the way, and its manifests unless it cannot be listed. -/
structure Visit where
  directory : Path
  manifests : Except PathError (List Path)

namespace Visit

def listing (h : Host) (directory : Path) : Except PathError (List Path × List Path) := do
  let manifests ← h.manifestsIn directory
  let subdirectories ← h.subdirectoriesOf directory
  return (manifests, subdirectories)

/-- The visits from a directory on, at most `depth` levels down. -/
def below (h : Host) (extra : List String) : Nat → Path → List Visit
  | 0, _ => []
  | depth + 1, directory =>
    if isIgnored extra directory then []
    else match listing h directory with
      | .error e => [⟨directory, .error e⟩]
      | .ok (manifests, subdirectories) =>
        ⟨directory, .ok manifests⟩ :: subdirectories.flatMap (below h extra depth)

/-- All visits from a directory on. No directory lies deeper than the tree. -/
def all (h : Host) (extra : List String) (directory : Path) : List Visit :=
  below h extra (h.tree.depth + 1) directory

end Visit

end PascalWorkspace
