import PascalWorkspace.Package.Resolution

/-! Dependencies that could not be found. A package borrows the target that a package requiring it,
directly or through others, has for a dependency of the same name. -/
namespace PascalWorkspace

namespace Registry

/-- The number of packages that a search has not met. -/
def unmet (r : Registry) (met : List String) : Nat := r.count fun p => !met.contains p.manifest

theorem unmet_lt {r : Registry} {met : List String} {key : String} {p : Package}
    (hfind : r.find? key = some p) (hmet : met.contains key = false) :
    r.unmet (key :: met) < r.unmet met := by
  refine countP_lt_of_imp ?_ (find?_mem hfind) ?_ ?_
  · intro q
    simp
  · simpa [find?_manifest hfind] using hmet
  · simp [find?_manifest hfind]

/-- Searches the pending packages in front, each before those that require it, for a dependency of a
name with a target. -/
def searchTarget (r : Registry) (name : String) (met : List String) :
    List String → Option String
  | [] => none
  | key :: rest =>
    if _hmet : met.contains key = true then searchTarget r name met rest
    else
      match _hfind : r.find? key with
      | none => searchTarget r name met rest
      | some p =>
        match p.targetOf? name with
        | some target => some target
        | none => searchTarget r name (key :: met) (p.requiredBy ++ rest)
  termination_by pending => (r.unmet met, pending.length)
  decreasing_by
    · exact Prod.Lex.right _ (by simp)
    · exact Prod.Lex.right _ (by simp)
    · exact Prod.Lex.left _ _ (unmet_lt _hfind (by simpa using _hmet))

section Equations

variable {r : Registry} {name key : String} {met rest : List String} {p : Package}

theorem searchTarget_of_met (hmet : met.contains key = true) :
    r.searchTarget name met (key :: rest) = r.searchTarget name met rest := by
  rw [searchTarget, dif_pos hmet]

theorem searchTarget_of_unknown (hmet : ¬ met.contains key = true) (hnone : r.find? key = none) :
    r.searchTarget name met (key :: rest) = r.searchTarget name met rest := by
  rw [searchTarget, dif_neg hmet]
  split
  · rfl
  · next hp => simp [hnone] at hp

theorem searchTarget_of_known (hmet : ¬ met.contains key = true) (hp : r.find? key = some p) :
    r.searchTarget name met (key :: rest) =
      match p.targetOf? name with
      | some target => some target
      | none => r.searchTarget name (key :: met) (p.requiredBy ++ rest) := by
  rw [searchTarget, dif_neg hmet]
  split
  · next hnone => simp [hp] at hnone
  · next q hq =>
    cases hp.symm.trans hq
    rfl

end Equations

/-- The target that can be borrowed for a dependency of a package. -/
def borrowedTarget? (r : Registry) (key name : String) : Option String :=
  r.searchTarget name [] [key]

end Registry

namespace Workspace

/-- Borrows a target for a dependency that has none. -/
def repairDependency (ref : DependencyRef) : Action Unit := do
  let registry := (← get).registry
  match registry.find? ref.manifest with
  | none => pure ()
  | some p =>
    match p.dependencies[ref.index]? with
    | none => pure ()
    | some d =>
      if d.isResolved then pure ()
      else
        match registry.borrowedTarget? p.manifest d.name with
        | none => pure ()
        | some target =>
          report .debug .resolver s!"Guessed dependency {d.name} of {p.name} -> {target}"
          changeRegistry (·.update ref.manifest (·.withTarget ref.index target))

/-- Borrows targets for the dependencies of a registered package. -/
def repair (key : String) : Action Unit := do
  match (← get).registry.find? key with
  | none => pure ()
  | some p => p.dependencyRefs.forM repairDependency

end Workspace

end PascalWorkspace
