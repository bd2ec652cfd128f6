import PascalWorkspace.Package.Registry

/-! The search paths of a package together with those of the packages it needs: its own first, then
those of each dependency in the order of declaration. Every package is done once; one that is still
being done contributes what it has so far. -/
namespace PascalWorkspace

namespace Registry

inductive MergeTask where
  /-- Merges the search paths of a package unless that has been done. -/
  | merge (key : String)
  /-- Appends the merged search paths of another package. -/
  | append (key target : String)
  deriving DecidableEq, Repr

def beginMerge (r : Registry) (key : String) : Registry :=
  r.update key fun p => { p with isMerged := true, mergedPaths := p.paths }

def appendPaths (r : Registry) (key target : String) : Registry :=
  match r.find? target with
  | none => r
  | some t => r.update key fun p => { p with mergedPaths := p.mergedPaths ++ t.mergedPaths }

def unmerged (r : Registry) : Nat := r.count (!·.isMerged)

theorem unmerged_appendPaths (r : Registry) (key target : String) :
    (r.appendPaths key target).unmerged = r.unmerged := by
  unfold appendPaths
  split
  · rfl
  · exact count_update fun _ => rfl

theorem unmerged_beginMerge {r : Registry} {key : String} {p : Package}
    (hfind : r.find? key = some p) (hp : p.isMerged = false) :
    (r.beginMerge key).unmerged < r.unmerged :=
  count_update_lt hfind (by simp [hp]) fun _ => rfl

def mergeTasks (p : Package) : List MergeTask :=
  p.targets.flatMap fun target => [.merge target, .append p.manifest target]

def mergeAll (r : Registry) : List MergeTask → Registry
  | [] => r
  | .append key target :: rest => mergeAll (r.appendPaths key target) rest
  | .merge key :: rest =>
    match _hfind : r.find? key with
    | none => mergeAll r rest
    | some p =>
      if _hp : p.isMerged = true then mergeAll r rest
      else mergeAll (r.beginMerge key) (mergeTasks p ++ rest)
  termination_by tasks => (r.unmerged, tasks.length)
  decreasing_by
    · rw [unmerged_appendPaths]
      exact Prod.Lex.right _ (by simp)
    · exact Prod.Lex.right _ (by simp)
    · exact Prod.Lex.right _ (by simp)
    · exact Prod.Lex.left _ _ (unmerged_beginMerge _hfind (by simpa using _hp))

section Equations

variable {r : Registry} {key : String} {rest : List MergeTask} {p : Package}

theorem mergeAll_of_unknown (hnone : r.find? key = none) :
    r.mergeAll (.merge key :: rest) = r.mergeAll rest := by
  rw [mergeAll]
  split
  · rfl
  · next hp => simp [hnone] at hp

theorem mergeAll_of_known (hp : r.find? key = some p) :
    r.mergeAll (.merge key :: rest) =
      if p.isMerged = true then r.mergeAll rest
      else (r.beginMerge key).mergeAll (mergeTasks p ++ rest) := by
  rw [mergeAll]
  split
  · next hnone => simp [hp] at hnone
  · next q hq =>
    cases hp.symm.trans hq
    rfl

end Equations

/-- Merges the search paths of a package and of all that it needs. -/
def mergePaths (r : Registry) (key : String) : Registry := r.mergeAll [.merge key]

end Registry

end PascalWorkspace
