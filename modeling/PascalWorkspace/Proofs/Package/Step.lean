import PascalWorkspace.Define.Publication
import PascalWorkspace.Package.Merge
import PascalWorkspace.Proofs.Package.Search

/-! The changes that a registry can go through, one at a time, and what all of them keep: a target
once found stays, and a package whose dependencies have not been looked for has neither targets nor
dependents. -/
namespace PascalWorkspace

/-- A package without the results of merging and publishing. -/
def Package.bare (p : Package) : Package :=
  { p with mergedPaths := {}, isMerged := false, isPublished := false }

namespace Registry

/-- What may happen to a registry. -/
structure Scope where
  /-- The manifests that may be asked for as such and not only for a dependency. -/
  roots : Set String
  /-- Whether targets may be borrowed. -/
  repairs : Prop
  /-- Whether paths may be merged and packages published. -/
  finishes : Prop

def Scope.unlimited : Scope := ⟨Set.univ, True, True⟩

variable {r s t : Registry} {key name target : String} {ref place : DependencyRef} {d : Dependency}
  {scope : Scope}

/-- Two registries differ at most in the results of merging and publishing. -/
def SameGraph (r s : Registry) : Prop :=
  s.packages.map Package.bare = r.packages.map Package.bare

def request (r : Registry) (key : String) : Registry :=
  { r with requested := r.requested ++ [key] }

/-- A manifest is asked for and there: it was known, or it is read and registered. -/
inductive Admits (r : Registry) (key : String) : Registry → Prop where
  | known (h : (r.find? key).isSome) : Admits r key r
  | registered (m : Manifest) (hnew : r.find? key = none) :
      Admits r key ((r.request key).add (.ofManifest key m))

/-- One change of a registry. -/
inductive Step (scope : Scope) (r : Registry) : Registry → Prop where
  /-- A manifest is asked for in vain. -/
  | request (key : String) : Step scope r (r.request key)
  | register {key : String} {s : Registry} (hkey : key ∈ scope.roots) (h : Admits r key s) :
      Step scope r s
  /-- The dependencies of a package begin to be looked for. -/
  | mark {key : String} (hkey : (r.find? key).isSome) : Step scope r (r.markResolved key)
  /-- A dependency is tied to its target, whose own dependencies are looked for next. -/
  | connect {s : Registry} {ref : DependencyRef} {d : Dependency} {target : String}
      (h : Admits r target s) (hd : s.dependency? ref = some d) (hopen : d.target = none)
      (href : s.isResolvedAt ref.manifest = true) :
      Step scope r ((s.link ref target).markResolved target)
  /-- A dependency borrows a target. -/
  | borrow {ref : DependencyRef} {d : Dependency} {target : String} (hscope : scope.repairs)
      (hd : r.dependency? ref = some d) (hopen : d.target = none)
      (htarget : r.borrowedTarget? ref.manifest d.name = some target) :
      Step scope r (r.setTarget ref target)
  /-- Paths are merged or packages published. -/
  | finish {s : Registry} (hscope : scope.finishes) (h : SameGraph r s)
      (hbyName : s.byName = r.byName) (hrequested : s.requested = r.requested) : Step scope r s

abbrev Steps (scope : Scope) : Registry → Registry → Prop := Relation.ReflTransGen (Step scope)

/-! ### Asking for a manifest -/

theorem Admits.distinct (h : Admits r key s) (hr : r.Distinct) : s.Distinct := by
  cases h with
  | known => exact hr
  | registered m hnew => exact distinct_add hr hnew

theorem Admits.isSome_find? (h : Admits r key s) : (s.find? key).isSome := by
  cases h with
  | known hkey => exact hkey
  | registered m hnew =>
    rw [find?_add hnew]
    exact congrArg Option.isSome (if_pos rfl)

theorem Admits.isSome_find?_iff {other : String} (h : Admits r key s) :
    (s.find? other).isSome ↔ (r.find? other).isSome ∨ other = key := by
  cases h with
  | known hkey =>
    refine ⟨.inl, ?_⟩
    rintro (hother | rfl)
    · exact hother
    · exact hkey
  | registered m hnew =>
    rw [find?_add hnew]
    split
    · next heq => exact ⟨fun _ => .inr heq, fun _ => rfl⟩
    · next hne => exact ⟨.inl, fun hother => hother.resolve_right hne⟩

theorem Admits.find?_of_ne {other : String} (h : Admits r key s) (hne : other ≠ key) :
    s.find? other = r.find? other := by
  cases h with
  | known => rfl
  | registered m hnew =>
    rw [find?_add hnew]
    exact if_neg hne

/-- A registered package stays as it is. -/
theorem Admits.find?_of_some {other : String} {p : Package} (h : Admits r key s)
    (hp : r.find? other = some p) : s.find? other = some p := by
  cases h with
  | known => exact hp
  | registered m hnew =>
    rw [find?_add hnew, if_neg]
    · exact hp
    · rintro rfl
      cases hnew.symm.trans hp

theorem Admits.dependentsOf {other : String} (h : Admits r key s) :
    s.dependentsOf other = r.dependentsOf other := by
  cases h with
  | known => rfl
  | registered m hnew =>
    rw [dependentsOf_add hnew]
    split
    · next hk => simp [hk, Registry.dependentsOf, Package.ofManifest, hnew]
    · rfl

theorem Admits.isResolvedAt {other : String} (h : Admits r key s) :
    s.isResolvedAt other = r.isResolvedAt other := by
  cases h with
  | known => rfl
  | registered m hnew =>
    rw [isResolvedAt_add hnew]
    split
    · next hk => simp [hk, Registry.isResolvedAt, Package.ofManifest, hnew]
    · rfl

theorem Admits.dependency? (h : Admits r key s) (hd : r.dependency? ref = some d) :
    s.dependency? ref = some d := by
  cases h with
  | known => exact hd
  | registered m hnew =>
    obtain ⟨p, hp, -⟩ := find?_of_dependency? hd
    have hne : ref.manifest ≠ key := by
      rintro rfl
      simp [hnew] at hp
    rw [Registry.dependency?, dependenciesOf_add hnew]
    split
    · next heq => exact absurd heq hne
    · exact hd

/-- Dependencies that turn up with a package have no target. -/
theorem Admits.dependency?_of_target (h : Admits r key s) (hd : s.dependency? ref = some d)
    (htarget : d.target = some target) : r.dependency? ref = some d := by
  cases h with
  | known => exact hd
  | registered m hnew =>
    rw [Registry.dependency?, dependenciesOf_add hnew] at hd
    split at hd
    · obtain ⟨q, -, rfl⟩ := List.mem_map.1 (List.mem_of_getElem? hd)
      simp at htarget
    · exact hd

/-! ### Merging and publishing -/

theorem SameGraph.symm (h : SameGraph r s) : SameGraph s r := Eq.symm h

theorem SameGraph.trans (h : SameGraph r s) (h' : SameGraph s t) : SameGraph r t := Eq.trans h' h

theorem SameGraph.map_find? (h : SameGraph r s) :
    (s.find? key).map Package.bare = (r.find? key).map Package.bare := by
  have hbare (t : Registry) : (t.find? key).map Package.bare =
      (t.packages.map Package.bare).find? (·.manifest == key) := by
    rw [List.find?_map]
    rfl
  rw [hbare s, h, hbare r]

/-- What does not depend on the results of merging and publishing is the same. -/
theorem SameGraph.view {β : Type} {view : Package → β} (h : SameGraph r s)
    (hview : ∀ p, view p.bare = view p) : (s.find? key).map view = (r.find? key).map view := by
  have hbare (t : Registry) :
      ((t.find? key).map Package.bare).map view = (t.find? key).map view := by
    rw [Option.map_map]
    exact congrArg (Option.map · (t.find? key)) (funext hview)
  rw [← hbare s, h.map_find?, hbare r]

theorem SameGraph.dependenciesOf (h : SameGraph r s) :
    s.dependenciesOf key = r.dependenciesOf key := by
  rw [Registry.dependenciesOf, h.view fun _ => rfl, Registry.dependenciesOf]

theorem SameGraph.dependentsOf (h : SameGraph r s) : s.dependentsOf key = r.dependentsOf key := by
  rw [Registry.dependentsOf, h.view fun _ => rfl, Registry.dependentsOf]

theorem SameGraph.isResolvedAt (h : SameGraph r s) : s.isResolvedAt key = r.isResolvedAt key := by
  rw [Registry.isResolvedAt, h.view fun _ => rfl, Registry.isResolvedAt]

theorem SameGraph.dependency? (h : SameGraph r s) : s.dependency? ref = r.dependency? ref := by
  rw [Registry.dependency?, h.dependenciesOf, Registry.dependency?]

theorem SameGraph.isSome_find? (h : SameGraph r s) :
    (s.find? key).isSome = (r.find? key).isSome := by
  rw [← Option.isSome_map (f := Package.bare), h.map_find?, Option.isSome_map]

theorem SameGraph.distinct (h : SameGraph r s) (hr : r.Distinct) : s.Distinct := by
  have hbare (t : Registry) : (t.packages.map Package.bare).map (·.manifest) =
      t.packages.map (·.manifest) := by
    rw [List.map_map]
    rfl
  rwa [Distinct, ← hbare, h, hbare]

theorem sameGraph_update {f : Package → Package} (hf : ∀ p, (f p).bare = p.bare) :
    SameGraph r (r.update key f) := map_update hf

theorem sameGraph_beginMerge : SameGraph r (r.beginMerge key) := sameGraph_update fun _ => rfl

theorem sameGraph_markPublished : SameGraph r (r.markPublished key) :=
  sameGraph_update fun _ => rfl

theorem sameGraph_appendPaths : SameGraph r (r.appendPaths key target) := by
  unfold appendPaths
  split
  · rfl
  · exact sameGraph_update fun _ => rfl

/-- Merging changes of a package no more than the result of merging it. -/
theorem map_mergeAll {β : Type} {view : Package → β}
    (hview : ∀ p merged paths, view { p with isMerged := merged, mergedPaths := paths } = view p)
    (tasks : List MergeTask) : (r.mergeAll tasks).packages.map view = r.packages.map view := by
  fun_induction mergeAll r tasks with
  | case1 r => rfl
  | case2 r key target rest ih =>
    refine ih.trans ?_
    unfold appendPaths
    split
    · rfl
    · exact map_update fun p => hview p p.isMerged _
  | case3 r key rest hfind ih => exact ih
  | case4 r key rest p hfind hp ih => exact ih
  | case5 r key rest p hfind hp ih => exact ih.trans (map_update fun p => hview p true p.paths)

theorem sameGraph_mergeAll (tasks : List MergeTask) : SameGraph r (r.mergeAll tasks) :=
  map_mergeAll (fun _ _ _ => rfl) tasks

theorem sameGraph_mergePaths : SameGraph r (r.mergePaths key) := sameGraph_mergeAll _

/-- Merging changes packages only. -/
theorem mergeAll_eq (tasks : List MergeTask) :
    r.mergeAll tasks = { r with packages := (r.mergeAll tasks).packages } := by
  fun_induction mergeAll r tasks with
  | case1 r => rfl
  | case2 r key target rest ih =>
    rw [ih, appendPaths]
    split <;> rfl
  | case3 r key rest hfind ih => exact ih
  | case4 r key rest p hfind hp ih => exact ih
  | case5 r key rest p hfind hp ih =>
    rw [ih]
    rfl

theorem byName_mergeAll (tasks : List MergeTask) : (r.mergeAll tasks).byName = r.byName :=
  congrArg (·.byName) (mergeAll_eq tasks)

theorem requested_mergeAll (tasks : List MergeTask) :
    (r.mergeAll tasks).requested = r.requested := congrArg (·.requested) (mergeAll_eq tasks)

theorem sameGraph_publishAll (tree : DefineTree) (pending : List String) :
    SameGraph r (r.publishAll tree pending).1 := by
  fun_induction publishAll r tree pending with
  | case1 r tree => rfl
  | case2 r tree key rest hfind ih => exact ih
  | case3 r tree key rest p hfind hp ih => exact ih
  | case4 r tree key rest p hfind hp ih => exact sameGraph_markPublished.trans ih

/-- Of a registry, publishing changes packages only. -/
theorem publishAll_eq (tree : DefineTree) (pending : List String) :
    (r.publishAll tree pending).1 = { r with packages := (r.publishAll tree pending).1.packages } := by
  fun_induction publishAll r tree pending with
  | case1 r tree => rfl
  | case2 r tree key rest hfind ih => exact ih
  | case3 r tree key rest p hfind hp ih => exact ih
  | case4 r tree key rest p hfind hp ih =>
    rw [ih]
    rfl

theorem byName_publishAll (tree : DefineTree) (pending : List String) :
    (r.publishAll tree pending).1.byName = r.byName :=
  congrArg (·.byName) (publishAll_eq tree pending)

theorem requested_publishAll (tree : DefineTree) (pending : List String) :
    (r.publishAll tree pending).1.requested = r.requested :=
  congrArg (·.requested) (publishAll_eq tree pending)

theorem step_mergePaths (hscope : scope.finishes) : Step scope r (r.mergePaths key) :=
  .finish hscope sameGraph_mergePaths (byName_mergeAll _) (requested_mergeAll _)

theorem step_publish (hscope : scope.finishes) (tree : DefineTree) :
    Step scope r (r.publish tree key).1 :=
  .finish hscope (sameGraph_publishAll _ _) (byName_publishAll _ _) (requested_publishAll _ _)

/-! ### Connecting -/

theorem dependency?_connect : ((r.link ref target).markResolved target).dependency? place =
    if place = ref then (r.dependency? place).map (·.withTarget target)
    else r.dependency? place := by
  rw [dependency?_markResolved, link_eq, dependency?_addDependent, dependency?_setTarget]

theorem dependentsOf_connect (h : (r.find? target).isSome) :
    ((r.link ref target).markResolved target).dependentsOf key =
      if key = target then r.dependentsOf key ++ [ref.manifest] else r.dependentsOf key := by
  rw [dependentsOf_markResolved, link_eq,
    dependentsOf_addDependent (by rwa [isSome_find?_setTarget]), dependentsOf_setTarget]

/-- Of other packages than the one that has the dependency, only the target changes. -/
theorem find?_connect_of_ne (hne : key ≠ ref.manifest) :
    ((r.link ref target).markResolved target).find? key = (r.find? key).map fun p =>
      if key = target then
        { p with requiredBy := p.requiredBy ++ [ref.manifest], isResolved := true }
      else p := by
  have hmark : ((r.link ref target).markResolved target).find? key =
      ((r.link ref target).find? key).map fun p =>
        if key = target then { p with isResolved := true } else p := find?_update fun _ => rfl
  have hadd : ((r.setTarget ref target).addDependent target ref.manifest).find? key =
      ((r.setTarget ref target).find? key).map fun p =>
        if key = target then { p with requiredBy := p.requiredBy ++ [ref.manifest] } else p :=
    find?_update fun _ => rfl
  have hset : (r.setTarget ref target).find? key = r.find? key :=
    find?_update_of_ne (fun _ => rfl) hne
  rw [hmark, link_eq, hadd, hset, Option.map_map]
  by_cases hkey : key = target <;> simp [hkey, Function.comp_def]

theorem isSome_find?_link :
    ((r.link ref target).find? key).isSome = (r.find? key).isSome := by
  rw [link_eq, isSome_find?_addDependent, isSome_find?_setTarget]

theorem isSome_find?_connect :
    (((r.link ref target).markResolved target).find? key).isSome = (r.find? key).isSome := by
  rw [isSome_find?_markResolved, isSome_find?_link]

theorem isResolvedAt_link : (r.link ref target).isResolvedAt key = r.isResolvedAt key := by
  rw [link_eq, isResolvedAt_addDependent, isResolvedAt_setTarget]

theorem isResolvedAt_connect (h : (r.find? target).isSome) :
    ((r.link ref target).markResolved target).isResolvedAt key =
      (key == target || r.isResolvedAt key) := by
  rw [isResolvedAt_markResolved (by rwa [isSome_find?_link]), isResolvedAt_link]

theorem distinct_link (h : r.Distinct) : (r.link ref target).Distinct :=
  distinct_update (fun _ => rfl) (distinct_update (fun _ => rfl) h)

/-! ### What every change keeps -/

/-- A package whose dependencies have not been looked for has found nothing and was not found. -/
structure Sound (r : Registry) : Prop where
  distinct : r.Distinct
  dependents : ∀ key, r.isResolvedAt key = false → r.dependentsOf key = []
  targets : ∀ ref d, r.isResolvedAt ref.manifest = false → r.dependency? ref = some d →
    d.target = none

theorem sound_empty : Sound {} :=
  ⟨List.nodup_nil, fun _ _ => rfl,
    fun _ _ _ hd => by simp [dependency?, dependenciesOf, find?] at hd⟩

theorem Admits.sound (h : Admits r key s) (hr : r.Sound) : s.Sound := by
  refine ⟨h.distinct hr.distinct, ?_, ?_⟩
  · intro other hother
    rw [h.isResolvedAt] at hother
    rw [h.dependentsOf, hr.dependents other hother]
  · intro ref d href hd
    rw [h.isResolvedAt] at href
    by_contra hne
    obtain ⟨target, htarget⟩ := Option.ne_none_iff_exists'.1 hne
    exact hne (hr.targets ref d href (h.dependency?_of_target hd htarget))

theorem sound_mark (hr : r.Sound) (hkey : (r.find? key).isSome) : (r.markResolved key).Sound := by
  refine ⟨distinct_update (fun _ => rfl) hr.distinct, ?_, ?_⟩
  · intro other hother
    rw [isResolvedAt_markResolved hkey, Bool.or_eq_false_iff] at hother
    rw [dependentsOf_markResolved, hr.dependents other hother.2]
  · intro ref d href hd
    rw [isResolvedAt_markResolved hkey, Bool.or_eq_false_iff] at href
    rw [dependency?_markResolved] at hd
    exact hr.targets ref d href.2 hd

theorem sound_connect (hr : r.Sound) (href : r.isResolvedAt ref.manifest = true)
    (htarget : (r.find? target).isSome) : ((r.link ref target).markResolved target).Sound := by
  refine ⟨distinct_update (fun _ => rfl) (distinct_link hr.distinct), ?_, ?_⟩
  · intro key hkey
    rw [isResolvedAt_connect htarget, Bool.or_eq_false_iff] at hkey
    rw [dependentsOf_connect htarget, if_neg (by simpa using hkey.1), hr.dependents key hkey.2]
  · intro place d hplace hd
    rw [isResolvedAt_connect htarget, Bool.or_eq_false_iff] at hplace
    have hne : place ≠ ref := by
      rintro rfl
      simp [href] at hplace
    rw [dependency?_connect, if_neg hne] at hd
    exact hr.targets place d hplace.2 hd

/-- Only a package whose dependencies have been looked for can borrow a target. -/
theorem isResolvedAt_of_borrowedTarget? (hr : r.Sound)
    (h : r.borrowedTarget? key name = some target) : r.isResolvedAt key = true := by
  by_contra hkey
  rw [Bool.not_eq_true] at hkey
  obtain ⟨q, hq, index, d, hd, -, htarget⟩ := supplies_of_borrowedTarget? h
  obtain rfl | ⟨k, hstep, -⟩ := Relation.ReflTransGen.cases_head hq
  · have hnone := hr.targets ⟨key, index⟩ d hkey hd
    simp [hnone] at htarget
  · simp [RequiredBy, hr.dependents key hkey] at hstep

theorem sound_step (h : Step scope r s) (hr : r.Sound) : s.Sound := by
  cases h with
  | request key => exact ⟨hr.distinct, hr.dependents, hr.targets⟩
  | register hkey h => exact h.sound hr
  | mark hkey => exact sound_mark hr hkey
  | connect h hd hopen href => exact sound_connect (h.sound hr) href h.isSome_find?
  | @borrow ref d target _ hd hopen htarget =>
    have href := isResolvedAt_of_borrowedTarget? hr htarget
    refine ⟨distinct_update (fun _ => rfl) hr.distinct, ?_, ?_⟩
    · intro key hkey
      rw [isResolvedAt_setTarget] at hkey
      rw [dependentsOf_setTarget, hr.dependents key hkey]
    · intro place e hplace he
      rw [isResolvedAt_setTarget] at hplace
      have hne : place ≠ ref := by
        rintro rfl
        simp [href] at hplace
      rw [dependency?_setTarget, if_neg hne] at he
      exact hr.targets place e hplace he
  | finish _ h =>
    refine ⟨h.distinct hr.distinct, ?_, ?_⟩
    · intro key hkey
      rw [h.isResolvedAt] at hkey
      rw [h.dependentsOf, hr.dependents key hkey]
    · intro ref d href hd
      rw [h.isResolvedAt] at href
      rw [h.dependency?] at hd
      exact hr.targets ref d href hd

theorem sound_steps (h : Steps scope r s) (hr : r.Sound) : s.Sound := by
  induction h with
  | refl => exact hr
  | tail _ h ih => exact sound_step h ih

/-- A registry has come from another step by step, provided that one is sound. -/
def Evolves (scope : Scope) (r s : Registry) : Prop := r.Sound → Steps scope r s

instance : IsPreorder Registry (Evolves scope) where
  refl _ _ := .refl
  trans _ _ _ hrs hst hr := (hrs hr).trans (hst (sound_steps (hrs hr) hr))

theorem evolves_of_step (h : Step scope r s) : Evolves scope r s := fun _ => .single h

/-- A dependency that has a target stays as it is. -/
theorem dependency?_step (h : Step scope r s) (hd : r.dependency? ref = some d)
    (htarget : d.target = some target) : s.dependency? ref = some d := by
  have other {q : Registry} {place : DependencyRef} {e : Dependency}
      (hd : q.dependency? ref = some d) (he : q.dependency? place = some e)
      (hopen : e.target = none) : ref ≠ place := by
    rintro rfl
    simp_all
  cases h with
  | request key => exact hd
  | register hkey h => exact h.dependency? hd
  | mark hkey => rwa [dependency?_markResolved]
  | connect h he hopen href =>
    have hd' := h.dependency? hd
    rwa [dependency?_connect, if_neg (other hd' he hopen)]
  | borrow _ he hopen ht => rwa [dependency?_setTarget, if_neg (other hd he hopen)]
  | finish _ h => rwa [h.dependency?]

theorem dependency?_steps (h : Steps scope r s) (hd : r.dependency? ref = some d)
    (htarget : d.target = some target) : s.dependency? ref = some d := by
  induction h with
  | refl => exact hd
  | tail _ h ih => exact dependency?_step h ih htarget

/-- A registered package stays registered. -/
theorem isSome_find?_step (h : Step scope r s) (hkey : (r.find? key).isSome) :
    (s.find? key).isSome := by
  cases h with
  | request => exact hkey
  | register _ h => exact h.isSome_find?_iff.2 (.inl hkey)
  | mark => rwa [isSome_find?_markResolved]
  | connect h hd hopen href =>
    rw [isSome_find?_connect]
    exact h.isSome_find?_iff.2 (.inl hkey)
  | borrow => rwa [isSome_find?_setTarget]
  | finish _ h => rwa [h.isSome_find?]

theorem isSome_find?_steps (h : Steps scope r s) (hkey : (r.find? key).isSome) :
    (s.find? key).isSome := by
  induction h with
  | refl => exact hkey
  | tail _ h ih => exact isSome_find?_step h ih

end Registry

end PascalWorkspace
