import PascalWorkspace.Proofs.Workspace

/-! Looking for the dependencies of a package ties only dependencies that have no target yet: those
that are still to be done are all different, lie in packages that have been begun, and stay open
until their turn comes. -/
namespace PascalWorkspace

namespace Registry

variable {r s : Registry} {key target : String} {p : Package} {ref : DependencyRef}
  {refs rest : List DependencyRef}

/-- A dependency of a package that has been begun, without a target. -/
def Open (r : Registry) (ref : DependencyRef) : Prop :=
  r.isResolvedAt ref.manifest = true ∧ ∃ d, r.dependency? ref = some d ∧ d.target = none

/-- The dependencies that are still to be done. -/
def Pending (r : Registry) (refs : List DependencyRef) : Prop :=
  refs.Nodup ∧ ∀ ref ∈ refs, r.Open ref

theorem Open.of_admits (h : r.Open ref) (hs : Admits r key s) : s.Open ref := by
  obtain ⟨href, d, hd, hopen⟩ := h
  exact ⟨hs.isResolvedAt.trans href, d, hs.dependency? hd, hopen⟩

theorem Pending.of_admits (h : r.Pending refs) (hs : Admits r key s) : s.Pending refs :=
  ⟨h.1, fun ref href => (h.2 ref href).of_admits hs⟩

theorem Pending.tail (h : r.Pending (ref :: rest)) : r.Pending rest :=
  ⟨(List.nodup_cons.1 h.1).2, fun place hplace => h.2 place (List.mem_cons_of_mem _ hplace)⟩

/-- Other dependencies stay open when one is tied to its target. -/
theorem Open.connect {place : DependencyRef} (h : r.Open place) (hne : place ≠ ref)
    (htarget : (r.find? target).isSome) :
    ((r.link ref target).markResolved target).Open place := by
  obtain ⟨hplace, d, hd, hopen⟩ := h
  refine ⟨?_, d, ?_, hopen⟩
  · rw [isResolvedAt_connect htarget, hplace, Bool.or_true]
  · rwa [dependency?_connect, if_neg hne]

theorem Pending.connect (h : r.Pending (ref :: rest)) (htarget : (r.find? target).isSome) :
    ((r.link ref target).markResolved target).Pending rest := by
  obtain ⟨hnot, hrest⟩ := List.nodup_cons.1 h.1
  refine ⟨hrest, fun place hplace => ?_⟩
  refine (h.2 place (List.mem_cons_of_mem _ hplace)).connect ?_ htarget
  rintro rfl
  exact hnot hplace

/-- Nothing has been found for a package that has not been begun. -/
theorem dependency?_of_mem_refs (hr : r.Sound) (hp : r.find? p.manifest = some p)
    (hnew : p.isResolved = false) (href : ref ∈ p.dependencyRefs) :
    ∃ d, r.dependency? ref = some d ∧ d.target = none := by
  obtain ⟨hm, hi⟩ := mem_dependencyRefs.1 href
  have hd : r.dependency? ref = some p.dependencies[ref.index] := by
    rw [dependency?_of_find? (hm ▸ hp), List.getElem?_eq_getElem hi]
  exact ⟨_, hd, hr.targets ref _ (by rw [hm, isResolvedAt_of_find? hp, hnew]) hd⟩

/-- The dependencies of a package that is begun are all open. -/
theorem pending_markResolved (hr : r.Sound) (hp : r.find? p.manifest = some p)
    (hnew : p.isResolved = false) : (r.markResolved p.manifest).Pending p.dependencyRefs := by
  refine ⟨nodup_dependencyRefs p, fun ref href => ?_⟩
  obtain ⟨d, hd, hopen⟩ := dependency?_of_mem_refs hr hp hnew href
  refine ⟨?_, d, by rwa [dependency?_markResolved], hopen⟩
  rw [isResolvedAt_markResolved (by simp [hp]), (mem_dependencyRefs.1 href).1, beq_self_eq_true,
    Bool.true_or]

/-- A package met for the first time adds its dependencies to those still to be done. -/
theorem Pending.discover (h : r.Pending (ref :: rest)) (hr : r.Sound)
    (hp : r.find? p.manifest = some p) (hnew : p.isResolved = false) :
    ((r.link ref p.manifest).markResolved p.manifest).Pending (p.dependencyRefs ++ rest) := by
  have htarget : (r.find? p.manifest).isSome := by simp [hp]
  have hrest := h.connect htarget
  have hdone {place : DependencyRef} (hplace : place ∈ ref :: rest) :
      place ∉ p.dependencyRefs := by
    intro hmem
    have hbegun := (h.2 place hplace).1
    rw [(mem_dependencyRefs.1 hmem).1, isResolvedAt_of_find? hp, hnew] at hbegun
    cases hbegun
  refine ⟨(nodup_dependencyRefs p).append hrest.1 ?_, fun place hplace => ?_⟩
  · intro place hmem hplace
    exact hdone (List.mem_cons_of_mem _ hplace) hmem
  · obtain hmem | hplace := List.mem_append.1 hplace
    · obtain ⟨d, hd, hopen⟩ := dependency?_of_mem_refs hr hp hnew hmem
      have hne : place ≠ ref := by
        rintro rfl
        exact hdone List.mem_cons_self hmem
      refine ⟨?_, d, by rwa [dependency?_connect, if_neg hne], hopen⟩
      rw [isResolvedAt_connect htarget, (mem_dependencyRefs.1 hmem).1, beq_self_eq_true,
        Bool.true_or]
    · exact hrest.2 place hplace

/-- A target that has been begun before is not begun again. -/
theorem connect_eq_link (hr : r.Sound) (hp : r.find? p.manifest = some p)
    (hold : p.isResolved = true) :
    (r.link ref p.manifest).markResolved p.manifest = r.link ref p.manifest := by
  apply markResolved_eq_self (distinct_link hr.distinct)
  rw [isResolvedAt_link, isResolvedAt_of_find? hp, hold]

end Registry

namespace Workspace

open Operation Registry

variable {source : ManifestSource} {ref : DependencyRef} {w : Workspace} {scope : Scope}

/-- Looking for one dependency ties it to a package that is admitted, or it changes nothing but what
was asked for. -/
inductive Looked (source : ManifestSource) (ref : DependencyRef) (r : Registry) :
    Except Failure (Option Package) → Registry → Prop where
  | found {d : Dependency} {target : Package} {s : Registry} (hd : r.dependency? ref = some d)
      (hasked : Asked source (r.choosePath d) r (.ok target) s) :
      Looked source ref r (.ok (some target)) (s.link ref target.manifest)
  | absent : Looked source ref r (.ok none) r
  | refused (key : String) : Looked source ref r (.ok none) (r.request key)
  | failed (failure : Failure) {s : Registry} (h : s = r ∨ ∃ key, s = r.request key) :
      Looked source ref r (.error failure) s

theorem looked_linkDependency (source : ManifestSource) (ref : DependencyRef) (w : Workspace) :
    Looked source ref w.registry (outcome (linkDependency source ref) w).1
      (after (linkDependency source ref) w).registry := by
  have htry := asked_tryRegister source
  unfold after at htry ⊢
  unfold linkDependency
  simp only [outcome_bind, outcome_get]
  cases hp : w.registry.find? ref.manifest with
  | none => exact .absent
  | some p =>
    cases hd : p.dependencies[ref.index]? with
    | none =>
      simp only [hd, outcome_pure]
      exact .absent
    | some d =>
      simp only [hd]
      split
      · exact .absent
      · obtain ⟨result, hasked, hresult⟩ := htry (w.registry.choosePath d) w
        rw [outcome_bind]
        rcases h : outcome (tryRegister source (w.registry.choosePath d)) w with ⟨answer, v⟩
        rw [h] at hasked hresult
        obtain rfl : answer = attempt result := hresult
        cases result with
        | ok target => exact .found (by rw [dependency?_of_find? hp, hd]) hasked
        | error failure =>
          generalize hv : v.registry = s at hasked
          cases hasked with
          | badPath => exact .failed _ (.inl hv)
          | @refused key failure =>
            cases failure with
            | manifest => exact hv ▸ .refused key
            | _ => exact .failed _ (.inr ⟨key, hv⟩)

section Resolve

variable {R : Workspace → Workspace → Prop} [IsPreorder Workspace R]
  (hlink : ∀ ref, Keeps R (linkDependency source ref))
  (hmark : ∀ key, Keeps R (changeRegistry (·.markResolved key)))

include hlink hmark

/-- What looking for one dependency keeps is kept by looking for all, if it does not matter which
packages have been begun. -/
theorem keeps_resolveAll (fuel : Nat) (refs : List DependencyRef) :
    Keeps R (resolveAll source fuel refs) := by
  induction fuel, refs using resolveAll.induct with
  | case1 fuel =>
    rw [resolveAll]
    exact keeps_pure ()
  | case2 fuel ref rest ih ihTarget =>
    rw [resolveAll]
    refine keeps_bind (hlink ref) fun result => ?_
    cases result with
    | none => exact ih
    | some target =>
      dsimp only
      split
      · exact ih
      · refine keeps_bind (hmark _) fun _ => ?_
        cases fuel with
        | zero => exact keeps_throw _
        | succ fuel => exact ihTarget target

theorem keeps_resolve_of_link (key : String) : Keeps R (resolve source key) := by
  refine keeps_bind keeps_get fun w => ?_
  dsimp only
  split
  · exact keeps_pure ()
  · split
    · exact keeps_pure ()
    · exact keeps_bind (hmark key) fun _ => keeps_resolveAll hlink hmark _ _

end Resolve

section Looked

variable {r s : Registry} {target : Package} {refs rest : List DependencyRef} {failure : Failure}

theorem Looked.steps_of_error (h : Looked source ref r (.error failure) s) : Steps scope r s := by
  cases h with
  | failed _ h =>
    obtain rfl | ⟨key, rfl⟩ := h
    · exact .refl
    · exact .single (.request key)

theorem Looked.steps_of_none (h : Looked source ref r (.ok none) s) : Steps scope r s := by
  cases h with
  | absent => exact .refl
  | refused key => exact .single (.request key)

/-- Where no target is found the packages are as they were. -/
theorem Looked.packages_of_none (h : Looked source ref r (.ok none) s) :
    s.packages = r.packages := by
  cases h <;> rfl

theorem Looked.pending_of_none (h : Looked source ref r (.ok none) s) (hrefs : r.Pending refs) :
    s.Pending refs := by
  cases h <;> exact hrefs

theorem Looked.exists_admits (h : Looked source ref r (.ok (some target)) s) :
    ∃ q, Admits r target.manifest q ∧ q.find? target.manifest = some target ∧
      s = q.link ref target.manifest := by
  cases h with
  | found _ hasked =>
    obtain ⟨-, hadmits, hfound⟩ := hasked.admits
    exact ⟨_, hadmits, hfound, rfl⟩

/-- A dependency that has its turn is tied to its target by a step. -/
theorem Looked.step (h : Looked source ref r (.ok (some target)) s)
    (hrefs : r.Pending (ref :: rest)) : Step scope r (s.markResolved target.manifest) := by
  obtain ⟨q, hadmits, -, rfl⟩ := h.exists_admits
  obtain ⟨href, d, hd, hopen⟩ := (hrefs.of_admits hadmits).2 ref List.mem_cons_self
  exact .connect hadmits hd hopen href

/-- Marking a target that has been begun before changes nothing. -/
theorem Looked.markResolved_eq_self (h : Looked source ref r (.ok (some target)) s) (hr : r.Sound)
    (hold : target.isResolved = true) : s.markResolved target.manifest = s := by
  obtain ⟨q, hadmits, hfound, rfl⟩ := h.exists_admits
  exact connect_eq_link (hadmits.sound hr) hfound hold

theorem Looked.pending_rest (h : Looked source ref r (.ok (some target)) s)
    (hrefs : r.Pending (ref :: rest)) : (s.markResolved target.manifest).Pending rest := by
  obtain ⟨q, hadmits, -, rfl⟩ := h.exists_admits
  exact (hrefs.of_admits hadmits).connect hadmits.isSome_find?

theorem Looked.pending_discover (h : Looked source ref r (.ok (some target)) s) (hr : r.Sound)
    (hrefs : r.Pending (ref :: rest)) (hnew : target.isResolved = false) :
    (s.markResolved target.manifest).Pending (target.dependencyRefs ++ rest) := by
  obtain ⟨q, hadmits, hfound, rfl⟩ := h.exists_admits
  exact (hrefs.of_admits hadmits).discover (hadmits.sound hr) hfound hnew

end Looked

/-- The dependencies still to be done are pending whenever the registry is sound, so every tie is
that of an open dependency. -/
theorem steps_resolveAll (fuel : Nat) (refs : List DependencyRef) (hw : w.registry.Sound)
    (hrefs : w.registry.Pending refs) :
    Steps scope w.registry (after (resolveAll source fuel refs) w).registry := by
  induction fuel, refs using resolveAll.induct generalizing w with
  | case1 fuel =>
    rw [resolveAll]
    exact .refl
  | case2 fuel ref rest ih ihTarget =>
    have hlooked := looked_linkDependency source ref w
    unfold after at hlooked ⊢
    rw [resolveAll, outcome_bind]
    rcases h : outcome (linkDependency source ref) w with ⟨failure | found, v⟩ <;>
      simp only [h] at hlooked ⊢
    · exact hlooked.steps_of_error
    · cases found with
      | none =>
        have hsteps : Steps scope w.registry v.registry := hlooked.steps_of_none
        exact hsteps.trans (ih (sound_steps hsteps hw) (hlooked.pending_of_none hrefs).tail)
      | some target =>
        have hstep : Step scope w.registry _ := hlooked.step hrefs
        have hsound := sound_step hstep hw
        dsimp only
        split
        · next hold =>
          have hrest := hlooked.pending_rest hrefs
          rw [hlooked.markResolved_eq_self hw hold] at hstep hsound hrest
          exact .head hstep (ih hsound hrest)
        · next hnew =>
          have hdiscover := hlooked.pending_discover hw hrefs (by simpa using hnew)
          rw [outcome_bind, outcome_changeRegistry]
          cases fuel with
          | zero => exact .single hstep
          | succ fuel =>
            let next := { v with registry := v.registry.markResolved target.manifest }
            exact .head hstep (@ihTarget target next hsound hdiscover)

/-- A package that has not been begun is begun, and then its dependencies are looked for. -/
theorem steps_resolve_of_new {p : Package} (hw : w.registry.Sound)
    (hp : w.registry.find? p.manifest = some p) (hnew : p.isResolved = false) :
    Steps scope (w.registry.markResolved p.manifest)
      (after (resolve source p.manifest) w).registry := by
  let begun := { w with registry := w.registry.markResolved p.manifest }
  have hbegun : begun.registry.Sound := sound_mark hw (by simp [hp])
  have hpending := pending_markResolved hw hp hnew
  have hrun : after (resolve source p.manifest) w =
      after (resolveAll source (source.capacity + w.registry.size) p.dependencyRefs) begun := by
    unfold after
    simp [resolve, outcome_bind, hp, hnew, begun]
  rw [hrun]
  exact steps_resolveAll _ _ hbegun hpending

/-- The dependencies of a package that has been begun are not looked for again. -/
theorem after_resolve_of_old {p : Package} (hp : w.registry.find? p.manifest = some p)
    (hold : p.isResolved = true) : after (resolve source p.manifest) w = w := by
  unfold after
  simp [resolve, outcome_bind, hp, hold]

/-- Looking for what a package needs changes the registry step by step. -/
theorem keeps_resolve (key : String) : Keeps (OnRegistry (Evolves scope)) (resolve source key) := by
  intro w hw
  cases hp : w.registry.find? key with
  | none =>
    have hrun : after (resolve source key) w = w := by simp [after, resolve, outcome_bind, hp]
    rw [hrun]
  | some p =>
    obtain rfl := find?_manifest hp
    cases hold : p.isResolved with
    | true => rw [after_resolve_of_old hp hold]
    | false => exact .head (.mark (by simp [hp])) (steps_resolve_of_new hw hp hold)

end Workspace

end PascalWorkspace
