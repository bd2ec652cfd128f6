import PascalWorkspace.Proofs.Package.Roots
import PascalWorkspace.Proofs.Package.Shown
import PascalWorkspace.Proofs.Walk.Phases

/-! The first walk of a scan. If it ends well then it has asked for every manifest on its way: each
is registered since and its dependencies have been looked for, or it cannot be read and never will
be. -/
namespace PascalWorkspace

namespace Workspace

open Operation Registry

variable {source : ManifestSource} {h : Host} {visits : List Visit} {r s : Registry} {m : Path}
  {key : String} {w v : Workspace} {scope : Scope} {ignored : List String} {directory : Path}

/-- A manifest is registered or cannot be read. -/
def Heard (source : ManifestSource) (r : Registry) (m : Path) : Prop :=
  ∀ key, source.canonical m.toString = .ok key → (r.find? key).isSome ∨
    ∃ path fault, source.read key = .error (.manifest path fault)

/-- The dependencies of a manifest have been looked for, or it cannot be read. -/
def Sought (source : ManifestSource) (r : Registry) (m : Path) : Prop :=
  ∀ key, source.canonical m.toString = .ok key → r.isResolvedAt key = true ∨
    ∃ path fault, source.read key = .error (.manifest path fault)

theorem Heard.steps (hm : Heard source r m) (hsteps : Steps scope r s) : Heard source s m :=
  fun key hkey => (hm key hkey).imp_left (isSome_find?_steps hsteps)

theorem Sought.heard (hm : Sought source r m) : Heard source r m :=
  fun key hkey => (hm key hkey).imp_left isSome_find?_of_isResolvedAt

theorem Sought.steps (hm : Sought source r m) (hsteps : Steps scope r s) : Sought source s m :=
  fun key hkey => (hm key hkey).imp_left (isResolvedAt_steps hsteps)

theorem steps_of_outcome {α : Type} {act : Action α} {result : Except Failure α}
    (hact : Keeps (OnRegistry (Evolves scope)) act) (hw : w.registry.Sound)
    (hrun : outcome act w = (result, v)) : Steps scope w.registry v.registry :=
  hact.of_outcome hrun hw

/-- A package is begun when its dependencies are looked for, unless it has been begun before. -/
theorem isResolvedAt_of_resolve (hw : w.registry.Sound) (hkey : (w.registry.find? key).isSome)
    (hok : outcome (resolve source key) w = (.ok (), v)) : v.registry.isResolvedAt key = true := by
  obtain ⟨p, hp⟩ := Option.isSome_iff_exists.1 hkey
  obtain rfl := find?_manifest hp
  have hv : after (resolve source p.manifest) w = v := congrArg Prod.snd hok
  rw [← hv]
  cases hold : p.isResolved with
  | true => rw [after_resolve_of_old hp hold, isResolvedAt_of_find? hp, hold]
  | false =>
    have hsteps : Steps .unlimited (w.registry.markResolved p.manifest)
        (after (resolve source p.manifest) w).registry := steps_resolve_of_new hw hp hold
    refine isResolvedAt_steps hsteps ?_
    rw [isResolvedAt_markResolved hkey, beq_self_eq_true, Bool.true_or]

theorem establishes_sought (source : ManifestSource) (m : Path) :
    Establishes source (fun p => resolve source p.manifest) (fun w => w.registry.Sound)
      (fun w => Sought source w.registry) m where
  refused := by
    intro w v reason _ hask key hkey
    obtain ⟨other, place, fault, hother, -, hread, -⟩ := refused_tryRegister hask
    obtain rfl := Except.ok.inj (hkey.symm.trans hother)
    exact .inr ⟨place, fault, hread⟩
  met := by
    intro w u v p hw hask hrun key hkey
    obtain ⟨hcanonical, hadmits, hp⟩ := admits_tryRegister hask
    obtain rfl := Except.ok.inj (hkey.symm.trans hcanonical)
    exact .inl (isResolvedAt_of_resolve (hadmits.sound hw) (by simp [hp]) hrun)

/-- To ask again for a manifest that has been asked for registers nothing. -/
theorem requested_tryRegister (hm : Heard source r m)
    (hw : ∀ key, (r.find? key).isSome → (w.registry.find? key).isSome) :
    ∃ requested, (after (tryRegister source m.toString) w).registry =
      { w.registry with requested } := by
  obtain ⟨result, hasked, -⟩ := asked_tryRegister source m.toString w
  generalize (after (tryRegister source m.toString) w).registry = s at hasked
  cases hasked with
  | badPath => exact ⟨_, rfl⟩
  | known => exact ⟨_, rfl⟩
  | refused => exact ⟨_, rfl⟩
  | registered hkey hnew hread =>
    obtain hsome | ⟨path, fault, hfault⟩ := hm _ hkey
    · simpa [hnew] using hw _ hsome
    · simp [hread] at hfault

/-- All manifests on a way have been asked for, with what they need, and nothing has been merged. -/
structure Explored (source : ManifestSource) (visits : List Visit) (r : Registry) : Prop where
  sound : r.Sound
  unmerged : r.Unmerged
  rooted : r.Rooted (listedKeys source visits)
  heard : ∀ visit ∈ visits, ∀ m ∈ visit.listed, Heard source r m
  resolved : ∀ key, (r.find? key).isSome → r.isResolvedAt key = true

theorem quiet_resolveBelow : Keeps (Quiet source) (resolveBelow h source ignored directory) :=
  keeps_bind (keeps_forPackages (fun p => quiet_resolve p.manifest)
    fun _ _ m _ => quiet_tryRegister source m.toString) fun _ => keeps_pure _

/-- Every package that has turned up since nothing was registered can be read. -/
theorem readable_of_quiet (hw : w.registry = {}) (hquiet : Quiet source w v)
    (hkey : (v.registry.find? key).isSome) : ∃ m, source.read key = .ok m := by
  obtain hsame | ⟨-, m, hread, -⟩ := hquiet.registry key
  · have hnone : v.registry.find? key = none := by
      rw [← shown?_eq_none, hsame, hw]
      rfl
    simp [hnone] at hkey
  · exact ⟨m, hread⟩

/-- The first walk explores the way. -/
theorem explored_of_resolveBelow {found : Nat} (hw : w.registry = {})
    (hok : outcome (resolveBelow h source ignored directory) w = (.ok found, v)) :
    Explored source (Visit.all h ignored directory) v.registry := by
  let visits := Visit.all h ignored directory
  let scope : Scope := ⟨listedKeys source visits, False, False⟩
  have hsound : w.registry.Sound := hw ▸ sound_empty
  have hsteps : Steps scope w.registry v.registry :=
    steps_of_outcome (keeps_resolveBelow (Set.Subset.refl _)) hsound hok
  obtain ⟨packages, x, hpackages, hreturn⟩ := outcome_bind_eq_ok hok
  obtain ⟨-, rfl⟩ := Prod.mk.inj hreturn
  have htry : ∀ visit ∈ visits, ∀ m ∈ visit.listed,
      Keeps (OnRegistry (Evolves scope)) (tryRegister source m.toString) :=
    fun visit hvisit m hm => keeps_tryRegister fun key hkey => ⟨visit, hvisit, m, hm, hkey⟩
  have hsought : ∀ visit ∈ visits, ∀ m ∈ visit.listed, Sought source x.registry m :=
    forall_forPackages (fun _ _ hwv hw => sound_steps (hwv hw) hw)
      (fun _ _ _ hwv hw hm => hm.steps (hwv hw)) (fun p => keeps_resolve p.manifest) htry
      (fun _ _ m _ => establishes_sought source m) hsound hpackages
  refine ⟨sound_steps hsteps hsound, unmerged_steps hsteps id (hw ▸ unmerged_empty),
    rooted_steps hsteps (hw ▸ rooted_empty _), fun visit hvisit m hm => ?_, fun key hkey => ?_⟩
  · exact (hsought visit hvisit m hm).heard
  · obtain hresolved | ⟨visit, hvisit, m, hm, hcanonical⟩ :=
      begun_steps hsteps (hw ▸ begun_empty _) key hkey
    · exact hresolved
    · -- A manifest on the way that could not be read would not be registered now.
      obtain hresolved | ⟨path, fault, hread⟩ := hsought visit hvisit m hm key hcanonical
      · exact hresolved
      · obtain ⟨n, hn⟩ := readable_of_quiet hw (quiet_resolveBelow.of_outcome hok) hkey
        simp [hread] at hn

end Workspace

end PascalWorkspace
