import PascalWorkspace.Proofs.Walk.Heard

/-! The second walk of a scan registers nothing more. It repairs the packages that it meets, which
are those of the manifests on its way. -/
namespace PascalWorkspace

namespace Registry

variable {r s t : Registry} {ref : DependencyRef} {target : String}

/-- A registry has come from another by repairs, and the same manifests are registered. -/
structure Mended (r s : Registry) : Prop where
  repaired : Repaired r s
  registered : ∀ key, (s.find? key).isSome = (r.find? key).isSome

/-- Repairs go on, and what has been settled stays settled. -/
def Mends (r s t : Registry) : Prop :=
  Mended r s → Mended r t ∧ ∀ place, Settled r s place → Settled r t place

instance : IsPreorder Registry (Mends r) where
  refl _ h := ⟨h, fun _ hplace => hplace⟩
  trans _ _ _ hst htu h := by
    obtain ⟨ht, hplaces⟩ := hst h
    obtain ⟨hu, hlater⟩ := htu ht
    exact ⟨hu, fun place hplace => hlater place (hplaces place hplace)⟩

theorem mended_refl (r : Registry) : Mended r r := ⟨repaired_refl r, fun _ => rfl⟩

/-- What has been asked for does not matter to repairs. -/
theorem mends_requested (requested : List String) : Mends r s { s with requested } := by
  intro h
  have hrepaired := h.repaired
  exact ⟨⟨⟨hrepaired.dependents, hrepaired.requirements, hrepaired.kept, hrepaired.known⟩,
    h.registered⟩, fun _ hplace => hplace⟩

end Registry

namespace Workspace

open Operation Registry

variable {source : ManifestSource} {h : Host} {r : Registry} {m : Path} {w v : Workspace}
  {ignored : List String} {directory : Path}

/-- The registered manifests are the same. -/
def SameKeys (w v : Workspace) : Prop :=
  ∀ key, (v.registry.find? key).isSome = (w.registry.find? key).isSome

instance : IsPreorder Workspace SameKeys where
  refl _ _ := rfl
  trans _ _ _ hwv hvu key := (hvu key).trans (hwv key)

theorem sameKeys_repair (key : String) : Keeps SameKeys (repair key) :=
  keeps_repair_of_borrow (fun _ _ _ _ _ _ => isSome_find?_setTarget) key

theorem mends_repair (key : String) : Keeps (OnRegistry (Mends r)) (repair key) := by
  intro w hw
  have hkeys : SameKeys w (after (repair key) w) := sameKeys_repair key w
  obtain ⟨v, hv, hpass⟩ := repairs_repair r key w hw.repaired
  rw [after, hv] at hkeys ⊢
  exact ⟨⟨hpass.repaired, fun other => (hkeys other).trans (hw.registered other)⟩,
    fun place hplace => hpass.settled place (.inr hplace)⟩

theorem mends_tryRegister (hm : Heard source r m) :
    Keeps (OnRegistry (Mends r)) (tryRegister source m.toString) := by
  intro w hw
  obtain ⟨requested, hafter⟩ : ∃ requested,
      (after (tryRegister source m.toString) w).registry = { w.registry with requested } :=
    requested_tryRegister hm fun key hkey => (hw.registered key).trans hkey
  rw [hafter]
  exact mends_requested requested hw

/-- A manifest that is met has its dependencies settled. One that cannot be read has none. -/
theorem establishes_settled (hm : Heard source r m) :
    Establishes source (fun p => repair p.manifest) (fun w => Mended r w.registry)
      (fun w m => ∀ place : DependencyRef, source.canonical m.toString = .ok place.manifest →
        Settled r w.registry place) m where
  refused := by
    intro w v reason _ hask place hplace d hd
    obtain ⟨key, path, fault, hkey, hnew, -, hv⟩ := refused_tryRegister hask
    obtain rfl := Except.ok.inj (hkey.symm.trans hplace)
    obtain ⟨p, hp, -⟩ := find?_of_dependency? hd
    have hsame : v.registry.find? place.manifest = w.registry.find? place.manifest := by
      rw [hv]
      rfl
    rw [hsame, hnew] at hp
    cases hp
  met := by
    intro w u v p hw hask hrun place hplace
    obtain ⟨hcanonical, -, -⟩ := admits_tryRegister hask
    have hmanifest : place.manifest = p.manifest :=
      Except.ok.inj (hplace.symm.trans hcanonical)
    have hu : Mended r u.registry := ((mends_tryRegister hm).of_outcome hask hw).1
    obtain ⟨x, hx, hpass⟩ := repairs_repair r p.manifest u hu.repaired
    obtain rfl : v = x := (Prod.mk.inj (hrun.symm.trans hx)).2
    exact hpass.settled place (.inl hmanifest)

theorem quiet_repairBelow : Keeps (Quiet source) (repairBelow h source ignored directory) :=
  keeps_bind (keeps_forPackages (fun p => quiet_repair p.manifest)
    fun _ _ m _ => quiet_tryRegister source m.toString) fun _ => keeps_pure _

/-- The second walk keeps the way explored and settles the dependencies of all manifests on it. -/
theorem mended_of_repairBelow {repaired : Nat}
    (hw : Explored source (Visit.all h ignored directory) w.registry)
    (hok : outcome (repairBelow h source ignored directory) w = (.ok repaired, v)) :
    Explored source (Visit.all h ignored directory) v.registry ∧
      Mended w.registry v.registry ∧
      ∀ place : DependencyRef, place.manifest ∈ listedKeys source (Visit.all h ignored directory) →
        Settled w.registry v.registry place := by
  let visits := Visit.all h ignored directory
  let scope : Scope := ⟨listedKeys source visits, True, False⟩
  have hsteps : Steps scope w.registry v.registry :=
    steps_of_outcome (keeps_repairBelow trivial (Set.Subset.refl _)) hw.sound hok
  obtain ⟨packages, x, hpackages, hreturn⟩ := outcome_bind_eq_ok hok
  obtain ⟨-, rfl⟩ := Prod.mk.inj hreturn
  have htry : ∀ visit ∈ visits, ∀ m ∈ visit.listed,
      Keeps (OnRegistry (Mends w.registry)) (tryRegister source m.toString) :=
    fun visit hvisit m hm => mends_tryRegister (hw.heard visit hvisit m hm)
  have hwalk : Keeps (OnRegistry (Mends w.registry))
      (forPackages source (fun p => repair p.manifest) visits) :=
    keeps_forPackages (fun p => mends_repair p.manifest) htry
  have hmended : Mended w.registry x.registry := (hwalk.of_outcome hpackages (mended_refl _)).1
  have hsettled := forall_forPackages (fun _ _ hwv hw => (hwv hw).1)
    (fun _ _ _ hwv hw hm place hplace => (hwv hw).2 place (hm place hplace))
    (fun p => mends_repair p.manifest) htry
    (fun visit hvisit m hm => establishes_settled (hw.heard visit hvisit m hm))
    (mended_refl w.registry) hpackages
  have hheard : ∀ visit ∈ visits, ∀ m ∈ visit.listed, Heard source x.registry m :=
    fun visit hvisit m hm => (hw.heard visit hvisit m hm).steps hsteps
  refine ⟨⟨sound_steps hsteps hw.sound, unmerged_steps hsteps id hw.unmerged,
    rooted_steps hsteps hw.rooted, hheard, fun key hkey => ?_⟩, hmended, fun place hplace => ?_⟩
  · rw [hmended.registered] at hkey
    exact isResolvedAt_steps hsteps (hw.resolved key hkey)
  · obtain ⟨visit, hvisit, m, hm, hcanonical⟩ := hplace
    exact hsettled visit hvisit m hm place hcanonical

end Workspace

end PascalWorkspace
