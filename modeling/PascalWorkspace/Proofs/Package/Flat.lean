import Mathlib.Data.Set.Finite.List
import PascalWorkspace.Proofs.Package.Step

/-! The closed form of merged search paths where no package needs itself: the paths of a package
first, then those of each dependency, in the order of declaration. -/
namespace PascalWorkspace

namespace SearchPaths

theorem append_eq (a b : SearchPaths) : a ++ b =
    ⟨a.units ++ b.units, a.includes ++ b.includes, a.sources ++ b.sources⟩ := rfl

@[simp] theorem append_empty (a : SearchPaths) : a ++ ({} : SearchPaths) = a := by
  simp [append_eq]

theorem append_assoc (a b c : SearchPaths) : a ++ b ++ c = a ++ (b ++ c) := by
  simp [append_eq]

def concat : List SearchPaths → SearchPaths
  | [] => {}
  | a :: rest => a ++ concat rest

end SearchPaths

namespace Registry

variable {r s : Registry} {key target : String} {p : Package} {ref : DependencyRef} {d : Dependency}
  {scope : Scope}

/-- The search paths that a package declares. -/
def pathsOf (r : Registry) (key : String) : SearchPaths := ((r.find? key).map (·.paths)).getD {}

/-- The targets of the dependencies of a package, in the order of declaration. -/
def targetsOf (r : Registry) (key : String) : List String :=
  ((r.find? key).map (·.targets)).getD []

/-- A dependency of a package has a target. -/
def Needs (r : Registry) (key target : String) : Prop := target ∈ r.targetsOf key

/-- A package needs another directly or through others, or is that other itself. -/
abbrev Needed (r : Registry) : String → String → Prop := Relation.ReflTransGen r.Needs

/-- No package needs itself. -/
def Acyclic (r : Registry) : Prop := ∀ key, ¬ Relation.TransGen r.Needs key key

theorem pathsOf_of_find? (h : r.find? key = some p) : r.pathsOf key = p.paths := by
  simp [pathsOf, h]

theorem targetsOf_of_find? (h : r.find? key = some p) : r.targetsOf key = p.targets := by
  simp [targetsOf, h]

theorem targetsOf_eq : r.targetsOf key = (r.dependenciesOf key).filterMap (·.target) := by
  cases h : r.find? key with
  | none => simp [targetsOf, dependenciesOf, h]
  | some p => rw [targetsOf_of_find? h, dependenciesOf_of_find? h, Package.targets]

theorem needs_iff : r.Needs key target ↔
    ∃ index d, r.dependency? ⟨key, index⟩ = some d ∧ d.target = some target := by
  rw [Needs, targetsOf_eq, List.mem_filterMap]
  simp only [List.mem_iff_getElem?, dependency?]
  constructor
  · rintro ⟨d, ⟨index, hd⟩, htarget⟩
    exact ⟨index, d, hd, htarget⟩
  · rintro ⟨index, d, hd, htarget⟩
    exact ⟨d, ⟨index, hd⟩, htarget⟩

theorem isSome_find?_of_needs (h : r.Needs key target) : (r.find? key).isSome := by
  obtain ⟨index, d, hd, -⟩ := needs_iff.1 h
  obtain ⟨p, hp, -⟩ := find?_of_dependency? hd
  exact Option.isSome_iff_exists.2 ⟨p, hp⟩

theorem isSome_find?_of_needed (h : r.Needed key target) (htarget : (r.find? target).isSome) :
    (r.find? key).isSome := by
  obtain rfl | ⟨next, hnext, -⟩ := h.cases_head
  · exact htarget
  · exact isSome_find?_of_needs hnext

theorem SameGraph.pathsOf (h : SameGraph r s) : s.pathsOf key = r.pathsOf key := by
  rw [Registry.pathsOf, h.view fun _ => rfl, Registry.pathsOf]

theorem SameGraph.targetsOf (h : SameGraph r s) : s.targetsOf key = r.targetsOf key := by
  rw [Registry.targetsOf, h.view fun _ => rfl, Registry.targetsOf]

theorem SameGraph.needs_eq (h : SameGraph r s) : s.Needs = r.Needs := by
  funext key target
  rw [Needs, h.targetsOf, Needs]

theorem SameGraph.acyclic (h : SameGraph r s) (hr : r.Acyclic) : s.Acyclic := by
  rw [Acyclic, h.needs_eq]
  exact hr

theorem finite_registered (r : Registry) : Finite {key // (r.find? key).isSome} := by
  refine ((r.packages.map (·.manifest)).finite_toSet.subset fun key hkey => ?_).to_subtype
  obtain ⟨p, hp⟩ := Option.isSome_iff_exists.1 hkey
  exact List.mem_map.2 ⟨p, find?_mem hp, find?_manifest hp⟩

/-- Of the finitely many registered packages alone something leads on, so that without a cycle no
chain is endless. -/
theorem wellFounded_of_no_cycle {next : String → String → Prop}
    (hnext : ∀ ⦃key other⦄, next key other → (r.find? key).isSome)
    (hcycle : ∀ key, ¬ Relation.TransGen next key key) :
    WellFounded fun other key => next key other := by
  let Below (a b : {key // (r.find? key).isSome}) : Prop := Relation.TransGen next b.1 a.1
  have := finite_registered r
  have : IsTrans _ Below := ⟨fun _ _ _ hab hbc => hbc.trans hab⟩
  have : Std.Irrefl Below := ⟨fun a => hcycle a.1⟩
  have hwf : WellFounded Below := Finite.wellFounded_of_trans_of_irrefl Below
  have hnew {key : String} (hkey : ¬ (r.find? key).isSome) :
      Acc (fun other key => next key other) key :=
    ⟨_, fun other hother => absurd (hnext hother) hkey⟩
  have hknown (member : {key // (r.find? key).isSome}) :
      Acc (fun other key => next key other) member.1 := by
    induction member using hwf.induction with
    | _ member ih =>
      refine ⟨_, fun other hother => ?_⟩
      by_cases hmem : (r.find? other).isSome
      · exact ih ⟨other, hmem⟩ (.single hother)
      · exact hnew hmem
  refine ⟨fun key => ?_⟩
  by_cases hkey : (r.find? key).isSome
  · exact hknown ⟨key, hkey⟩
  · exact hnew hkey

/-- A numbering that falls along every step leaves no cycle. -/
theorem not_cycle_of_rank {next : String → String → Prop} (rank : String → Nat)
    (h : ∀ ⦃key other⦄, next key other → rank other < rank key) (key : String) :
    ¬ Relation.TransGen next key key := by
  have hchain {other : String} (hway : Relation.TransGen next key other) :
      rank other < rank key := by
    induction hway with
    | single hstep => exact h hstep
    | tail _ hstep ih => exact (h hstep).trans ih
  exact fun hcycle => (hchain hcycle).false

/-- No chain of needs is endless. -/
theorem Acyclic.wellFounded (hr : r.Acyclic) :
    WellFounded fun target key => r.Needs key target :=
  wellFounded_of_no_cycle (fun _ _ => isSome_find?_of_needs) hr

/-- A numbering that falls from each package to what it needs. -/
theorem acyclic_of_rank (rank : String → Nat)
    (h : ∀ p ∈ r.packages, ∀ target ∈ p.targets, rank target < rank p.manifest) : r.Acyclic := by
  refine not_cycle_of_rank rank fun key target hneeds => ?_
  obtain ⟨p, hp⟩ := Option.isSome_iff_exists.1 (isSome_find?_of_needs hneeds)
  rw [Needs, targetsOf_of_find? hp] at hneeds
  rw [← find?_manifest hp]
  exact h p (find?_mem hp) target hneeds

/-- The paths of a package, then those of each of its targets in the same way. -/
def flat (r : Registry) (hr : r.Acyclic) (key : String) : SearchPaths :=
  r.pathsOf key ++ .concat ((r.targetsOf key).attach.map fun target => r.flat hr target.1)
  termination_by hr.wellFounded.wrap key
  decreasing_by exact target.2

theorem flat_eq (hr : r.Acyclic) (key : String) :
    r.flat hr key = r.pathsOf key ++ .concat ((r.targetsOf key).map (r.flat hr)) := by
  rw [flat, List.attach_map_val]

theorem flat_of_find?_eq_none (hr : r.Acyclic) (h : r.find? key = none) : r.flat hr key = {} := by
  rw [flat_eq, pathsOf, targetsOf, h]
  rfl

theorem SameGraph.flat (h : SameGraph r s) (hr : r.Acyclic) (hs : s.Acyclic) (key : String) :
    s.flat hs key = r.flat hr key := by
  induction key using hr.wellFounded.induction with
  | _ key ih =>
    rw [flat_eq, flat_eq, h.pathsOf, h.targetsOf, List.map_congr_left ih]

end Registry

end PascalWorkspace
