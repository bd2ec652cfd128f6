import PascalWorkspace.Proofs.Package.Step

/-! Where targets come from: every target of a dependency, a borrowed one too, was found by looking
for a dependency of the same name, of the package itself or of one that requires it. -/
namespace PascalWorkspace

namespace Registry

variable {r s : Registry} {key other name target : String} {ref : DependencyRef} {d : Dependency}
  {scope : Scope}

/-- A dependency of a name was tied to its target in both directions. -/
def Found (r : Registry) (key name target : String) : Prop :=
  r.Supplies key name target ∧ r.RequiredBy target key

/-- A target was found for a package or for one of its dependents. -/
def Traced (r : Registry) (key name target : String) : Prop :=
  ∃ q, r.Dependent key q ∧ r.Found q name target

/-- All targets are traced. -/
def Founded (r : Registry) : Prop :=
  ∀ ref d target, r.dependency? ref = some d → d.target = some target →
    r.Traced ref.manifest d.name target

theorem requiredBy_step (h : Step scope r s) (hkey : r.RequiredBy key other) :
    s.RequiredBy key other := by
  unfold RequiredBy at hkey ⊢
  cases h with
  | request => exact hkey
  | register _ h => rwa [h.dependentsOf]
  | mark => rwa [dependentsOf_markResolved]
  | connect h hd hopen href =>
    rw [dependentsOf_connect h.isSome_find?, h.dependentsOf]
    split
    · exact List.mem_append_left _ hkey
    · exact hkey
  | borrow => rwa [dependentsOf_setTarget]
  | finish _ h => rwa [h.dependentsOf]

theorem supplies_step (h : Step scope r s) (hkey : r.Supplies key name target) :
    s.Supplies key name target := by
  obtain ⟨index, d, hd, hname, htarget⟩ := hkey
  exact ⟨index, d, dependency?_step h hd htarget, hname, htarget⟩

theorem traced_step (h : Step scope r s) (hkey : r.Traced key name target) :
    s.Traced key name target := by
  obtain ⟨q, hq, hsupplies, hrequired⟩ := hkey
  exact ⟨q, Relation.ReflTransGen.mono (fun _ _ => requiredBy_step h) _ _ hq,
    supplies_step h hsupplies, requiredBy_step h hrequired⟩

theorem Supplies.rename {name' : String} (h : r.Supplies key name target)
    (hname : sameName name name' = true) : r.Supplies key name' target := by
  obtain ⟨index, d, hd, hd', htarget⟩ := h
  exact ⟨index, d, hd, sameName_trans hd' hname, htarget⟩

theorem Traced.rename {name' : String} (h : r.Traced key name target)
    (hname : sameName name name' = true) : r.Traced key name' target := by
  obtain ⟨q, hq, hsupplies, hrequired⟩ := h
  exact ⟨q, hq, hsupplies.rename hname, hrequired⟩

/-- What a dependent can trace, the packages it requires can trace. -/
theorem Traced.of_dependent (hother : r.Dependent key other) (h : r.Traced other name target) :
    r.Traced key name target := by
  obtain ⟨q, hq, hfound⟩ := h
  exact ⟨q, hother.trans hq, hfound⟩

/-- A target found for a dependency is traced to that dependency itself. -/
theorem traced_connect (hd : r.dependency? ref = some d) (htarget : (r.find? target).isSome) :
    ((r.link ref target).markResolved target).Traced ref.manifest d.name target := by
  refine ⟨ref.manifest, .refl, ⟨ref.index, d.withTarget target, ?_, ?_, rfl⟩, ?_⟩
  · rw [dependency?_connect, if_pos rfl, hd, Option.map_some]
  · exact sameName_iff.2 rfl
  · rw [RequiredBy, dependentsOf_connect htarget, if_pos rfl]
    exact List.mem_append_right _ (List.mem_singleton_self _)

/-- A target that can be borrowed is traced. -/
theorem Founded.traced_of_borrowedTarget? (hr : r.Founded)
    (h : r.borrowedTarget? key name = some target) : r.Traced key name target := by
  obtain ⟨q, hq, index, d, hd, hname, htarget⟩ := supplies_of_borrowedTarget? h
  exact ((hr _ d target hd htarget).rename hname).of_dependent hq

theorem founded_empty : Founded {} := by
  intro ref d target hd
  simp [dependency?, dependenciesOf, find?] at hd

theorem founded_step (h : Step scope r s) (hr : r.Founded) : s.Founded := by
  intro ref d target hd htarget
  have old (hold : r.dependency? ref = some d) : s.Traced ref.manifest d.name target :=
    traced_step h (hr ref d target hold htarget)
  cases h with
  | request => exact old hd
  | register _ h => exact old (h.dependency?_of_target hd htarget)
  | mark => exact old (by rwa [dependency?_markResolved] at hd)
  | @connect q place e t h he hopen hplace =>
    rw [dependency?_connect] at hd
    split at hd
    · next heq =>
      subst heq
      obtain rfl : e.withTarget t = d := by simpa [he] using hd
      obtain rfl : t = target := by simpa [Dependency.withTarget] using htarget
      exact traced_connect (d := e) he h.isSome_find?
    · exact old (h.dependency?_of_target hd htarget)
  | @borrow place e t hscope he hopen ht =>
    have hstep : Step scope r _ := .borrow hscope he hopen ht
    rw [dependency?_setTarget] at hd
    split at hd
    · next heq =>
      subst heq
      obtain rfl : e.withTarget t = d := by simpa [he] using hd
      obtain rfl : t = target := by simpa [Dependency.withTarget] using htarget
      exact traced_step hstep (hr.traced_of_borrowedTarget? ht)
    · exact old hd
  | finish _ h => exact old (by rwa [h.dependency?] at hd)

theorem founded_steps (h : Steps scope r s) (hr : r.Founded) : s.Founded := by
  induction h with
  | refl => exact hr
  | tail _ h ih => exact founded_step h ih

end Registry

end PascalWorkspace
