import PascalWorkspace.Proofs.Package.Merge
import PascalWorkspace.Proofs.Walk.Repair

/-! The last walk of a scan registers nothing if every manifest on its way has been asked for
before. It leaves every package that it meets merged, and whatever merging keeps is kept. -/
namespace PascalWorkspace

namespace Workspace

open Operation Registry

variable {source : ManifestSource} {h : Host} {reporter : Reporter} {manifests : List Path}
  {visits : List Visit} {visit : Visit} {packages : List Package} {r : Registry} {m : Path}
  {key : String} {w v : Workspace} {I : Registry → Prop} {ignored : List String} {directory : Path}

theorem outcome_forM_mergePaths {α : Type} (key : α → String) (xs : List α) (w : Workspace) :
    outcome (xs.forM fun x => mergePaths (key x)) w =
      (.ok (), { w with registry := (xs.map key).foldl Registry.mergePaths w.registry }) := by
  induction xs generalizing w with
  | nil => rfl
  | cons x xs ih => exact (outcome_bind_ok _ rfl).trans (ih _)

section Lasting

variable (hI : Lasting r I)
include hI

/-- A manifest that has been asked for before registers nothing new. -/
theorem keeps_tryRegister_of_heard (hm : Heard source r m) :
    Keeps (OnRegistry (Finishes I)) (tryRegister source m.toString) := by
  intro w hw
  have hsome (key : String) (hkey : (r.find? key).isSome) : (w.registry.find? key).isSome := by
    rwa [(hI.same hw).isSome_find?]
  obtain ⟨requested, hafter⟩ := requested_tryRegister hm hsome
  have hfinishes : Finishes I w.registry { w.registry with requested } :=
    finishes_of_mergeState hI rfl fun _ => rfl
  rw [hafter]
  exact hfinishes hw

omit hI in
theorem lasts_of_outcome {α : Type} {act : Action α} {result : Except Failure α}
    (hact : Keeps (OnRegistry (Finishes I)) act) (hw : I w.registry)
    (hrun : outcome act w = (result, v)) : I v.registry :=
  (hact.of_outcome hrun hw).1

omit hI in
theorem isMergedAt_of_outcome {α : Type} {act : Action α} {result : Except Failure α}
    (hact : Keeps (OnRegistry (Finishes I)) act) (hw : I w.registry)
    (hrun : outcome act w = (result, v)) (hkey : w.registry.isMergedAt key = true) :
    v.registry.isMergedAt key = true := (hact.of_outcome hrun hw).2 key hkey

omit hI in
/-- Asking for a registered manifest gives its package. -/
theorem tryRegister_of_registered {result : Except String Package}
    (hok : outcome (tryRegister source m.toString) w = (.ok result, v))
    (hkey : source.canonical m.toString = .ok key) (hsome : (w.registry.find? key).isSome) :
    ∃ p, result = .ok p ∧ p.manifest = key := by
  obtain ⟨asked, hasked, hresult⟩ := asked_tryRegister source m.toString w
  rw [hok] at hresult
  generalize (after (tryRegister source m.toString) w).registry = s at hasked
  cases hasked with
  | badPath hbad => simp [hkey] at hbad
  | refused hcanonical hnew =>
    obtain rfl := Except.ok.inj (hkey.symm.trans hcanonical)
    simp [hnew] at hsome
  | @known p hcanonical =>
    obtain rfl : result = .ok p := Except.ok.inj hresult
    exact ⟨p, rfl, Except.ok.inj (hcanonical.symm.trans hkey)⟩
  | registered hcanonical hnew =>
    obtain rfl := Except.ok.inj (hkey.symm.trans hcanonical)
    simp [hnew] at hsome

/-- The packages of all registered manifests are met. -/
theorem mem_of_forManifests (hheard : ∀ m ∈ manifests, Heard source r m)
    (hw : I w.registry)
    (hok : outcome (forManifests source (fun _ => pure ()) reporter manifests) w =
      (.ok packages, v)) (hm : m ∈ manifests) (hkey : source.canonical m.toString = .ok key)
    (hsome : (r.find? key).isSome) : key ∈ packages.map (·.manifest) := by
  induction manifests generalizing w packages with
  | nil => cases hm
  | cons first rest ih =>
    obtain ⟨hfirst, hrest⟩ := List.forall_mem_cons.1 hheard
    obtain ⟨result, u, hask, hnext⟩ := outcome_bind_eq_ok hok
    have hu := lasts_of_outcome (keeps_tryRegister_of_heard hI hfirst) hw hask
    have hknown : (w.registry.find? key).isSome := by rwa [(hI.same hw).isSome_find?]
    cases result with
    | error reason =>
      obtain ⟨_, x, hreport, hnext⟩ := outcome_bind_eq_ok hnext
      have hx : I x.registry := lasts_of_outcome (keeps_report _ _ _) hu hreport
      obtain rfl | hm := List.mem_cons.1 hm
      · obtain ⟨p, hp, -⟩ := tryRegister_of_registered hask hkey hknown
        cases hp
      · exact ih hrest hx hnext hm
    | ok p =>
      obtain ⟨_, x, hrun, hnext⟩ := outcome_bind_eq_ok hnext
      obtain ⟨-, rfl⟩ := Prod.mk.inj hrun
      obtain ⟨others, y, hothers, hreturn⟩ := outcome_bind_eq_ok hnext
      obtain ⟨hpackages, rfl⟩ := Prod.mk.inj hreturn
      obtain rfl : p :: others = packages := Except.ok.inj hpackages
      obtain rfl | hm := List.mem_cons.1 hm
      · obtain ⟨q, hq, hmanifest⟩ := tryRegister_of_registered hask hkey hknown
        obtain rfl := Except.ok.inj hq
        exact hmanifest ▸ List.mem_cons_self
      · exact List.mem_cons_of_mem _ (ih hrest hu hothers hm)

theorem keeps_publishVisit_of_heard (hheard : ∀ m ∈ visit.listed, Heard source r m) :
    Keeps (OnRegistry (Finishes I)) (publishVisit h source visit) :=
  keeps_publishVisit (fun _ _ => finishes_mergePaths hI) (fun _ tree _ => finishes_publish hI tree)
    fun m hm => keeps_tryRegister_of_heard hI (hheard m hm)

/-- A directory that is published leaves the packages of its manifests merged. -/
theorem isMergedAt_of_publishVisit (hheard : ∀ m ∈ visit.listed, Heard source r m)
    (hw : I w.registry) (hok : outcome (publishVisit h source visit) w = (.ok (), v))
    (hm : m ∈ visit.listed) (hkey : source.canonical m.toString = .ok key)
    (hsome : (r.find? key).isSome) : v.registry.isMergedAt key = true := by
  obtain ⟨_, a, hreport, hnext⟩ := outcome_bind_eq_ok hok
  obtain ⟨directory, b, hcanonical, hnext⟩ := outcome_bind_eq_ok hnext
  obtain ⟨_, c, hnode, hnext⟩ := outcome_bind_eq_ok hnext
  obtain ⟨manifests, d, hlist, hnext⟩ := outcome_bind_eq_ok hnext
  obtain ⟨packages, e, hpackages, hnext⟩ := outcome_bind_eq_ok hnext
  obtain ⟨_, f, hmerge, hpublish⟩ := outcome_bind_eq_ok hnext
  obtain rfl : manifests = visit.listed := outcome_listedManifests (congrArg Prod.fst hlist)
  have ha : I a.registry := lasts_of_outcome (keeps_report _ _ _) hw hreport
  have hb := lasts_of_outcome (keeps_ofPathResult _) ha hcanonical
  have hc := lasts_of_outcome (keeps_addNode _) hb hnode
  have hd := lasts_of_outcome (keeps_listedManifests visit) hc hlist
  have hregister : Keeps (OnRegistry (Finishes I))
      (forManifests source (fun _ => pure ()) .publication visit.listed) :=
    keeps_forManifests (fun _ => keeps_pure _) fun m hm =>
      keeps_tryRegister_of_heard hI (hheard m hm)
  have he := lasts_of_outcome hregister hd hpackages
  rw [outcome_forM_mergePaths] at hmerge
  obtain ⟨-, rfl⟩ := Prod.mk.inj hmerge
  have hmem := mem_of_forManifests hI hheard hd hpackages hm hkey hsome
  have hmerged := isMergedAt_foldl hmem (by rwa [(hI.same he).isSome_find?])
  refine isMergedAt_of_outcome ?_ (finishes_foldl hI he).1 hpublish hmerged
  exact keeps_forM fun p _ => keeps_publishAndReport (fun _ tree _ => finishes_publish hI tree) p

theorem isMergedAt_of_publishVisits
    (hheard : ∀ visit ∈ visits, ∀ m ∈ visit.listed, Heard source r m) (hw : I w.registry)
    (hok : outcome (visits.forM (publishVisit h source)) w = (.ok (), v))
    (hkey : key ∈ listedKeys source visits) (hsome : (r.find? key).isSome) :
    v.registry.isMergedAt key = true := by
  induction visits generalizing w with
  | nil =>
    obtain ⟨visit, hvisit, -⟩ := hkey
    cases hvisit
  | cons first rest ih =>
    obtain ⟨hfirst, hrest⟩ := List.forall_mem_cons.1 hheard
    obtain ⟨_, u, hrun, hnext⟩ := outcome_bind_eq_ok hok
    have hu := lasts_of_outcome (keeps_publishVisit_of_heard hI hfirst) hw hrun
    obtain ⟨visit, hvisit, m, hm, hcanonical⟩ := hkey
    obtain rfl | hvisit := List.mem_cons.1 hvisit
    · refine isMergedAt_of_outcome ?_ hu hnext
        (isMergedAt_of_publishVisit hI hfirst hw hrun hm hcanonical hsome)
      exact keeps_forM fun visit hvisit => keeps_publishVisit_of_heard hI (hrest visit hvisit)
    · exact ih hrest hu hnext ⟨visit, hvisit, m, hm, hcanonical⟩

end Lasting

/-- The last walk merges the packages of all manifests on its way. -/
theorem isMergedAt_of_publishBelow (hw : Explored source (Visit.all h ignored directory) w.registry)
    (hI : Lasting w.registry I) (hbegin : I w.registry)
    (hok : outcome (publishBelow h source ignored directory) w = (.ok (), v)) :
    I v.registry ∧ ∀ key ∈ listedKeys source (Visit.all h ignored directory),
      (w.registry.find? key).isSome → v.registry.isMergedAt key = true := by
  have hkeeps : Keeps (OnRegistry (Finishes I)) (publishBelow h source ignored directory) :=
    keeps_forM fun visit hvisit => keeps_publishVisit_of_heard hI (hw.heard visit hvisit)
  exact ⟨lasts_of_outcome hkeeps hbegin hok,
    fun _ hkey hsome => isMergedAt_of_publishVisits hI hw.heard hbegin hok hkey hsome⟩

/-- The last walk merges every package to the closed form. -/
theorem flatAt_of_publishBelow (hw : Explored source (Visit.all h ignored directory) w.registry)
    (hok : outcome (publishBelow h source ignored directory) w = (.ok (), v)) :
    SameGraph w.registry v.registry ∧ ∀ (hr : w.registry.Acyclic) key,
      (w.registry.find? key).isSome → w.registry.FlatAt hr v.registry key := by
  obtain ⟨hv, hmerged⟩ :=
    isMergedAt_of_publishBelow hw lasting_orderly (orderly_of_unmerged hw.unmerged) hok
  refine ⟨hv.same, fun hr key hkey => ?_⟩
  obtain ⟨root, hroot, hsome, hneeded⟩ := hw.rooted key hkey
  exact hv.done hr root (hmerged root hroot hsome) key hneeded

end Workspace

end PascalWorkspace
