import PascalWorkspace.Proofs.Package.Flat

/-! Every package was asked for as such or is needed by one that was, its dependencies are looked
for as soon as it is found for another, and only merging marks a package as merged. -/
namespace PascalWorkspace

namespace Registry

variable {r s : Registry} {key target : String} {ref : DependencyRef} {d : Dependency}
  {f : Package → Package} {scope : Scope}

/-- Every registered package is needed by one that was asked for as such. -/
def Rooted (roots : Set String) (r : Registry) : Prop :=
  ∀ key, (r.find? key).isSome → ∃ root ∈ roots, (r.find? root).isSome ∧ r.Needed root key

/-- The dependencies of every package have been looked for, unless it was asked for as such. -/
def Begun (roots : Set String) (r : Registry) : Prop :=
  ∀ key, (r.find? key).isSome → r.isResolvedAt key = true ∨ key ∈ roots

/-- No package has been merged. -/
def Unmerged (r : Registry) : Prop := ∀ p ∈ r.packages, p.isMerged = false

theorem needs_step (h : Step scope r s) (hneeds : r.Needs key target) : s.Needs key target := by
  obtain ⟨index, d, hd, htarget⟩ := needs_iff.1 hneeds
  exact needs_iff.2 ⟨index, d, dependency?_step h hd htarget, htarget⟩

theorem needed_step (h : Step scope r s) (hneeded : r.Needed key target) : s.Needed key target :=
  Relation.ReflTransGen.mono (fun _ _ => needs_step h) _ _ hneeded

theorem needs_connect (hd : r.dependency? ref = some d) :
    ((r.link ref target).markResolved target).Needs ref.manifest target := by
  refine needs_iff.2 ⟨ref.index, d.withTarget target, ?_, rfl⟩
  rw [dependency?_connect, if_pos rfl, hd, Option.map_some]

theorem isSome_find?_of_isResolvedAt (h : r.isResolvedAt key = true) : (r.find? key).isSome := by
  by_contra hnone
  simp [isResolvedAt, Option.not_isSome_iff_eq_none.1 hnone] at h

theorem rooted_empty (roots : Set String) : Rooted roots {} := fun _ h => (nomatch h)

/-- A package that turns up is asked for as such or becomes the target of a dependency. -/
theorem rooted_step (h : Step scope r s) (hr : Rooted scope.roots r) : Rooted scope.roots s := by
  intro key hkey
  have old {other : String} (hother : (r.find? other).isSome) :
      ∃ root ∈ scope.roots, (s.find? root).isSome ∧ s.Needed root other := by
    obtain ⟨root, hroot, hsome, hneeded⟩ := hr other hother
    exact ⟨root, hroot, isSome_find?_step h hsome, needed_step h hneeded⟩
  cases h with
  | request => exact old hkey
  | @register new _ hnew h =>
    obtain hold | rfl := h.isSome_find?_iff.1 hkey
    · exact old hold
    · exact ⟨key, hnew, hkey, .refl⟩
  | mark => exact old (by rwa [isSome_find?_markResolved] at hkey)
  | connect h hd hopen href =>
    rw [isSome_find?_connect] at hkey
    obtain hold | rfl := h.isSome_find?_iff.1 hkey
    · exact old hold
    · -- The package that has the dependency was begun, so it was there before its target.
      rw [h.isResolvedAt] at href
      obtain ⟨root, hroot, hsome, hneeded⟩ := old (isSome_find?_of_isResolvedAt href)
      exact ⟨root, hroot, hsome, hneeded.tail (needs_connect hd)⟩
  | borrow => exact old (by rwa [isSome_find?_setTarget] at hkey)
  | finish _ h => exact old (by rwa [h.isSome_find?] at hkey)

theorem rooted_steps (h : Steps scope r s) (hr : Rooted scope.roots r) : Rooted scope.roots s := by
  induction h with
  | refl => exact hr
  | tail _ h ih => exact rooted_step h ih

/-- A package whose dependencies have been looked for stays one. -/
theorem isResolvedAt_step (h : Step scope r s) (hkey : r.isResolvedAt key = true) :
    s.isResolvedAt key = true := by
  cases h with
  | request => exact hkey
  | register _ h => rwa [h.isResolvedAt]
  | mark hmark => rw [isResolvedAt_markResolved hmark, hkey, Bool.or_true]
  | connect h hd hopen href =>
    rw [isResolvedAt_connect h.isSome_find?, h.isResolvedAt, hkey, Bool.or_true]
  | borrow => rwa [isResolvedAt_setTarget]
  | finish _ h => rwa [h.isResolvedAt]

theorem isResolvedAt_steps (h : Steps scope r s) (hkey : r.isResolvedAt key = true) :
    s.isResolvedAt key = true := by
  induction h with
  | refl => exact hkey
  | tail _ h ih => exact isResolvedAt_step h ih

theorem begun_empty (roots : Set String) : Begun roots {} := fun _ h => (nomatch h)

/-- A package that is found for a dependency is begun in the same step. -/
theorem begun_step (h : Step scope r s) (hr : Begun scope.roots r) : Begun scope.roots s := by
  intro key hkey
  have old (hold : (r.find? key).isSome) : s.isResolvedAt key = true ∨ key ∈ scope.roots :=
    (hr key hold).imp_left (isResolvedAt_step h)
  cases h with
  | request => exact old hkey
  | register hroot h =>
    obtain hold | rfl := h.isSome_find?_iff.1 hkey
    · exact old hold
    · exact .inr hroot
  | mark => exact old (by rwa [isSome_find?_markResolved] at hkey)
  | connect h hd hopen href =>
    rw [isSome_find?_connect] at hkey
    obtain hold | rfl := h.isSome_find?_iff.1 hkey
    · exact old hold
    · refine .inl ?_
      rw [isResolvedAt_connect h.isSome_find?, beq_self_eq_true, Bool.true_or]
  | borrow => exact old (by rwa [isSome_find?_setTarget] at hkey)
  | finish _ h => exact old (by rwa [h.isSome_find?] at hkey)

theorem begun_steps (h : Steps scope r s) (hr : Begun scope.roots r) : Begun scope.roots s := by
  induction h with
  | refl => exact hr
  | tail _ h ih => exact begun_step h ih

theorem unmerged_empty : Unmerged {} := fun _ h => (nomatch h)

theorem unmerged_update (hf : ∀ p, (f p).isMerged = p.isMerged) (hr : r.Unmerged) :
    (r.update key f).Unmerged := by
  intro p hp
  obtain ⟨q, hq, rfl⟩ := List.mem_map.1 hp
  split
  · rw [hf, hr q hq]
  · exact hr q hq

theorem Admits.unmerged (h : Admits r key s) (hr : r.Unmerged) : s.Unmerged := by
  cases h with
  | known => exact hr
  | registered m =>
    intro p hp
    obtain hp | hp := List.mem_append.1 hp
    · exact hr p hp
    · rw [List.mem_singleton.1 hp]
      rfl

theorem unmerged_step (h : Step scope r s) (hscope : ¬ scope.finishes) (hr : r.Unmerged) :
    s.Unmerged := by
  cases h with
  | request => exact hr
  | register _ h => exact h.unmerged hr
  | mark => exact unmerged_update (fun _ => rfl) hr
  | connect h =>
    exact unmerged_update (fun _ => rfl) (unmerged_update (fun _ => rfl)
      (unmerged_update (fun _ => rfl) (h.unmerged hr)))
  | borrow => exact unmerged_update (fun _ => rfl) hr
  | finish h => exact absurd h hscope

theorem unmerged_steps (h : Steps scope r s) (hscope : ¬ scope.finishes) (hr : r.Unmerged) :
    s.Unmerged := by
  induction h with
  | refl => exact hr
  | tail _ h ih => exact unmerged_step h hscope ih

end Registry

end PascalWorkspace
