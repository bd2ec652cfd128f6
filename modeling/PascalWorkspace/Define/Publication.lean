import PascalWorkspace.Define.Tree
import PascalWorkspace.Package.Registry

/-! Publishing packages: the merged search paths of a package become defines for its directory and
everything below it, and the packages it needs are published after it. -/
namespace PascalWorkspace

/-- The node that a package contributes. -/
def Package.node (p : Package) : DefineNode where
  name := s!"Package {p.name}"
  directory := p.directory
  defines := [.addUnits p.mergedPaths.units true, .addIncludes p.mergedPaths.includes true,
    .addSources p.mergedPaths.sources true]

/-- The node that puts a directory on its own unit and include paths. -/
def directoryNode (directory : String) : DefineNode where
  name := "Directory"
  directory := directory
  defines := [.addUnits [directory] false, .addIncludes [directory] false]

namespace Registry

def markPublished (r : Registry) (key : String) : Registry :=
  r.update key fun p => { p with isPublished := true }

def unpublished (r : Registry) : Nat := r.count (!·.isPublished)

theorem unpublished_markPublished {r : Registry} {key : String} {p : Package}
    (hfind : r.find? key = some p) (hp : p.isPublished = false) :
    (r.markPublished key).unpublished < r.unpublished :=
  count_update_lt hfind (by simp [hp]) fun _ => rfl

/-- Publishes the packages in front that have not been published, each before those it needs. -/
def publishAll (r : Registry) (tree : DefineTree) : List String → Registry × DefineTree
  | [] => (r, tree)
  | key :: rest =>
    match _hfind : r.find? key with
    | none => publishAll r tree rest
    | some p =>
      if _hp : p.isPublished = true then publishAll r tree rest
      else publishAll (r.markPublished key) (tree.add p.node) (p.targets ++ rest)
  termination_by pending => (r.unpublished, pending.length)
  decreasing_by
    · exact Prod.Lex.right _ (by simp)
    · exact Prod.Lex.right _ (by simp)
    · exact Prod.Lex.left _ _ (unpublished_markPublished _hfind (by simpa using _hp))

section Equations

variable {r : Registry} {tree : DefineTree} {key : String} {rest : List String} {p : Package}

theorem publishAll_of_unknown (hnone : r.find? key = none) :
    r.publishAll tree (key :: rest) = r.publishAll tree rest := by
  rw [publishAll]
  split
  · rfl
  · next hp => simp [hnone] at hp

theorem publishAll_of_known (hp : r.find? key = some p) :
    r.publishAll tree (key :: rest) =
      if p.isPublished = true then r.publishAll tree rest
      else (r.markPublished key).publishAll (tree.add p.node) (p.targets ++ rest) := by
  rw [publishAll]
  split
  · next hnone => simp [hp] at hnone
  · next q hq =>
    cases hp.symm.trans hq
    rfl

end Equations

def publish (r : Registry) (tree : DefineTree) (key : String) : Registry × DefineTree :=
  r.publishAll tree [key]

end Registry

end PascalWorkspace
