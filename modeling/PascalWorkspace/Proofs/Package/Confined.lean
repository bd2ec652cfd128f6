import PascalWorkspace.Proofs.Package.BackReferences
import PascalWorkspace.Proofs.Package.Roots
import PascalWorkspace.Proofs.Package.Turns

/-! What looking for the dependencies of a package brings about. All that the package needs is
registered and begun afterwards. Nothing changes but packages that it needs, and those of them that
had been begun before only gain dependents. -/
namespace PascalWorkspace

namespace Registry

variable {r s : Registry} {root key target : String} {ref : DependencyRef} {d : Dependency}
  {p : Package} {scope : Scope}

/-! ### Closure -/

/-- A target has been begun, wherever it comes from. -/
theorem isResolvedAt_of_needs (h : Steps scope {} r) (hneeds : r.Needs key target) :
    r.isResolvedAt target = true := by
  obtain ⟨index, d, hd, htarget⟩ := needs_iff.1 hneeds
  obtain ⟨q, -, -, hrequired⟩ := founded_steps h founded_empty _ d target hd htarget
  exact (isResolvedAt_of_requiredBy h hrequired).2

/-- All that a package that has been begun needs has been begun as well. -/
theorem isResolvedAt_of_needed (h : Steps scope {} r) (hroot : r.isResolvedAt root = true)
    (hneeded : r.Needed root key) : r.isResolvedAt key = true := by
  obtain rfl | ⟨other, -, hneeds⟩ := hneeded.cases_tail
  · exact hroot
  · exact isResolvedAt_of_needs h hneeds

/-! ### Frame -/

/-- Two registries differ in what a package needs only. Of a package that had been begun before, not
even that changes, but for dependents that are added. -/
structure Confined (root : String) (r s : Registry) : Prop where
  others : ∀ key, ¬ s.Needed root key → s.find? key = r.find? key
  begun : ∀ key p, r.find? key = some p → p.isResolved = true →
    ∃ more, s.find? key = some { p with requiredBy := p.requiredBy ++ more }

theorem Confined.refl (root : String) (r : Registry) : Confined root r r :=
  ⟨fun _ _ => rfl, fun _ p hp _ => ⟨[], by rw [hp, List.append_nil]⟩⟩

/-- The package itself may be begun. -/
theorem confined_markResolved (hnew : r.isResolvedAt root = false) :
    Confined root r (r.markResolved root) := by
  have hother (key : String) (hne : key ≠ root) : (r.markResolved root).find? key = r.find? key :=
    find?_update_of_ne (fun _ => rfl) hne
  refine ⟨fun key hkey => hother key ?_, fun key p hp hold => ⟨[], ?_⟩⟩
  · rintro rfl
    exact hkey .refl
  · rw [List.append_nil, hother, hp]
    rintro rfl
    rw [isResolvedAt_of_find? hp, hold] at hnew
    cases hnew

/-- What has been begun before is still so. -/
theorem Confined.isResolvedAt (h : Confined root r s) (hkey : r.isResolvedAt key = true) :
    s.isResolvedAt key = true := by
  obtain ⟨p, hp⟩ := Option.isSome_iff_exists.1 (isSome_find?_of_isResolvedAt hkey)
  rw [isResolvedAt_of_find? hp] at hkey
  obtain ⟨more, hmore⟩ := h.begun key p hp hkey
  rw [isResolvedAt_of_find? hmore]
  exact hkey

theorem Confined.congr {t : Registry} (h : Confined root r s) (hst : t.packages = s.packages) :
    Confined root r t := by
  obtain ⟨packages, requested⟩ := t
  obtain rfl : packages = s.packages := hst
  exact ⟨h.others, h.begun⟩

/-- A tie stays within what the package needs if it is that of a dependency of a package that is
needed and that has been begun since. -/
theorem Confined.connect {q : Registry} (h : Confined root r s) (hadmits : Admits s target q)
    (hd : q.dependency? ref = some d) (hopen : d.target = none)
    (hbegun : q.isResolvedAt ref.manifest = true) (href : s.Needed root ref.manifest)
    (hnew : r.isResolvedAt ref.manifest = false) :
    Confined root r ((q.link ref target).markResolved target) := by
  have hstep : Step .unlimited s _ := .connect hadmits hd hopen hbegun
  have hsource := needed_step hstep href
  have htarget := hsource.tail (needs_connect hd)
  refine ⟨fun key hkey => ?_, fun key p hp hold => ?_⟩
  · have hne : key ≠ ref.manifest := by
      rintro rfl
      exact hkey hsource
    have hne' : key ≠ target := by
      rintro rfl
      exact hkey htarget
    rw [find?_connect_of_ne hne, hadmits.find?_of_ne hne']
    simp only [if_neg hne', Option.map_id']
    exact h.others key fun hneeded => hkey (needed_step hstep hneeded)
  · have hne : key ≠ ref.manifest := by
      rintro rfl
      rw [isResolvedAt_of_find? hp, hold] at hnew
      cases hnew
    obtain ⟨more, hmore⟩ := h.begun key p hp hold
    rw [find?_connect_of_ne hne, hadmits.find?_of_some hmore, Option.map_some]
    split
    · refine ⟨more ++ [ref.manifest], ?_⟩
      rw [← List.append_assoc, ← hold]
    · exact ⟨more, rfl⟩

end Registry

namespace Workspace

open Operation Registry

variable {source : ManifestSource} {w t : Workspace} {p : Package} {r : Registry} {root : String}

/-- A round has changed nothing but what a package needs, and what is pending lies in packages that
it needs and that have been begun since. -/
structure Round.Within (root : String) (r : Registry) (a : Round) : Prop where
  sound : a.workspace.registry.Sound
  pending : a.workspace.registry.Pending a.pending
  needed : ∀ ref ∈ a.pending, a.workspace.registry.Needed root ref.manifest
  new : ∀ ref ∈ a.pending, r.isResolvedAt ref.manifest = false
  confined : Confined root r a.workspace.registry

open Round

theorem within_of_new (hw : w.registry.Sound) (hp : w.registry.find? p.manifest = some p)
    (hnew : p.isResolved = false) : (Round.of p w).Within p.manifest w.registry := by
  have hroot : w.registry.isResolvedAt p.manifest = false := by rw [isResolvedAt_of_find? hp, hnew]
  refine ⟨sound_mark hw (by simp [hp]), pending_markResolved hw hp hnew, fun ref href => ?_,
    fun ref href => ?_, confined_markResolved hroot⟩
  · rw [(mem_dependencyRefs.1 href).1]
  · rwa [(mem_dependencyRefs.1 href).1]

section Turn

variable {v : Workspace} {target : Package} {ref : DependencyRef} {rest : List DependencyRef}
  {a b : Round}

theorem Round.Within.missed (h : (Round.mk (ref :: rest) w).Within root r)
    (hlooked : Looked source ref w.registry (.ok none) v.registry) :
    (Round.mk rest v).Within root r := by
  have hpackages := hlooked.packages_of_none
  have hsteps : Steps .unlimited w.registry v.registry := hlooked.steps_of_none
  have hneeds : ∀ x y, w.registry.Needs x y → v.registry.Needs x y := by
    intro x y hxy
    rwa [Needs, targetsOf, find?, hpackages]
  refine ⟨sound_steps hsteps h.sound, (hlooked.pending_of_none h.pending).tail,
    fun place hplace => ?_, fun place hplace => h.new place (List.mem_cons_of_mem _ hplace),
    h.confined.congr hpackages⟩
  exact Relation.ReflTransGen.mono hneeds _ _ (h.needed place (List.mem_cons_of_mem _ hplace))

/-- Once a dependency is tied to its target and that is marked, the target is needed too. -/
theorem Round.Within.tied (h : (Round.mk (ref :: rest) w).Within root r)
    (hlooked : Looked source ref w.registry (.ok (some target)) v.registry) :
    (Round.mk rest { v with registry := v.registry.markResolved target.manifest }).Within root r ∧
      (v.registry.markResolved target.manifest).Needed root target.manifest := by
  have hstep : Step .unlimited w.registry _ := hlooked.step h.pending
  obtain ⟨q, hadmits, -, hv⟩ := hlooked.exists_admits
  obtain ⟨hbegun, d, hd, hopen⟩ := (h.pending.of_admits hadmits).2 ref List.mem_cons_self
  have href := h.needed ref List.mem_cons_self
  refine ⟨⟨sound_step hstep h.sound, hlooked.pending_rest h.pending,
    fun place hplace => needed_step hstep (h.needed place (List.mem_cons_of_mem _ hplace)),
    fun place hplace => h.new place (List.mem_cons_of_mem _ hplace), ?_⟩,
    (needed_step hstep href).tail ?_⟩
  · dsimp only
    rw [hv]
    exact h.confined.connect hadmits hd hopen hbegun href (h.new ref List.mem_cons_self)
  · rw [hv]
    exact needs_connect hd

/-- A target that is met for the first time had not been begun before either. -/
theorem Round.Within.met (h : (Round.mk (ref :: rest) w).Within root r)
    (hlooked : Looked source ref w.registry (.ok (some target)) v.registry)
    (hnew : target.isResolved = false) :
    (Round.mk (target.dependencyRefs ++ rest)
      { v with registry := v.registry.markResolved target.manifest }).Within root r := by
  obtain ⟨hrest, htarget⟩ := h.tied hlooked
  have hfirst : r.isResolvedAt target.manifest = false := by
    rw [Bool.eq_false_iff]
    intro hbegun
    have hstill := h.confined.isResolvedAt hbegun
    rw [hlooked.registered.2, hnew] at hstill
    cases hstill
  refine ⟨hrest.sound, hlooked.pending_discover h.sound h.pending hnew, fun place hplace => ?_,
    fun place hplace => ?_, hrest.confined⟩
  · obtain hplace | hplace := List.mem_append.1 hplace
    · rwa [(mem_dependencyRefs.1 hplace).1]
    · exact hrest.needed place hplace
  · obtain hplace | hplace := List.mem_append.1 hplace
    · rwa [(mem_dependencyRefs.1 hplace).1]
    · exact hrest.new place hplace

theorem Round.Within.turn (h : a.Within root r) (hturn : Turn source a b) : b.Within root r := by
  cases hturn with
  | missed hrun => exact h.missed (looked_of_outcome hrun)
  | known hrun hold =>
    have hlooked := looked_of_outcome hrun
    have hrest := (h.tied hlooked).1
    rwa [hlooked.markResolved_eq_self h.sound hold] at hrest
  | met hrun hnew => exact h.met (looked_of_outcome hrun) hnew

end Turn

theorem Round.Within.turns {a b : Round} (h : a.Within root r) (hturns : Turns source a b) :
    b.Within root r := by
  induction hturns with
  | refl => exact h
  | tail _ hturn ih => exact ih.turn hturn

/-- Looking for the dependencies of a package changes nothing but what the package needs. -/
theorem confined_of_resolve (hw : w.registry.Sound) (hp : w.registry.find? p.manifest = some p)
    (hrun : outcome (resolve source p.manifest) w = (.ok (), t)) :
    Confined p.manifest w.registry t.registry := by
  cases hold : p.isResolved with
  | true =>
    have hsame : after (resolve source p.manifest) w = w := after_resolve_of_old hp hold
    rw [after, hrun] at hsame
    obtain rfl : t = w := hsame
    exact .refl p.manifest t.registry
  | false =>
    have hturns := turns_of_resolve hp hold hrun
    exact ((within_of_new hw hp hold).turns hturns).confined

end Workspace

end PascalWorkspace
