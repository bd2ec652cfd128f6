import PascalWorkspace.Proofs.Package.Repair
import PascalWorkspace.Proofs.Package.Resolution
import PascalWorkspace.Walk.Phases

/-! What the walks of a scan do to the registry, if it is known what they do for one manifest. -/
namespace PascalWorkspace

/-- The manifests of a visit, none if they cannot be listed. -/
def Visit.listed (v : Visit) : List Path := v.manifests.toOption.getD []

/-- The manifests listed by some visits, by their canonical paths. -/
def listedKeys (source : ManifestSource) (visits : List Visit) : Set String :=
  {key | ∃ v ∈ visits, ∃ m ∈ v.listed, source.canonical m.toString = .ok key}

namespace Workspace

open Operation Registry

variable {source : ManifestSource} {act : Package → Action Unit} {h : Host} {reporter : Reporter}
  {visits : List Visit} {scope : Scope} {R : Workspace → Workspace → Prop}
  [IsPreorder Workspace R] [IgnoresLog R] {Q : Registry → Registry → Prop} [IsPreorder Registry Q]

theorem keeps_addNode (n : DefineNode) : Keeps (OnRegistry Q) (addNode n) :=
  fun _ => onRegistry_of_eq rfl

theorem keeps_forManifests (hact : ∀ p, Keeps R (act p)) {manifests : List Path}
    (htry : ∀ m ∈ manifests, Keeps R (tryRegister source m.toString)) :
    Keeps R (forManifests source act reporter manifests) := by
  induction manifests with
  | nil => exact keeps_pure _
  | cons m rest ih =>
    obtain ⟨hm, hrest⟩ := List.forall_mem_cons.1 htry
    refine keeps_bind hm fun result => ?_
    cases result with
    | error reason => exact keeps_bind (keeps_report _ _ _) fun _ => ih hrest
    | ok p => exact keeps_bind (hact p) fun _ => keeps_bind (ih hrest) fun _ => keeps_pure _

theorem keeps_listedManifests (v : Visit) : Keeps R (listedManifests reporter v) := by
  unfold listedManifests
  split
  · exact keeps_pure _
  · exact keeps_bind (keeps_report _ _ _) fun _ => keeps_pure _
  · exact keeps_throw _

theorem outcome_listedManifests {v : Visit} {manifests : List Path} {w : Workspace}
    (hok : (outcome (listedManifests reporter v) w).1 = .ok manifests) : manifests = v.listed := by
  unfold Visit.listed
  unfold listedManifests at hok
  split at hok
  · next hv =>
    rw [hv]
    exact (Except.ok.inj hok).symm
  · next hv =>
    rw [hv]
    exact (Except.ok.inj hok).symm
  · exact nomatch hok

theorem keeps_forPackages (hact : ∀ p, Keeps R (act p))
    (htry : ∀ v ∈ visits, ∀ m ∈ v.listed, Keeps R (tryRegister source m.toString)) :
    Keeps R (forPackages source act visits) := by
  induction visits with
  | nil => exact keeps_pure _
  | cons v rest ih =>
    obtain ⟨hv, hrest⟩ := List.forall_mem_cons.1 htry
    refine keeps_bind_of_ok (keeps_listedManifests v) fun _ manifests hok => ?_
    rw [outcome_listedManifests hok]
    exact keeps_bind (keeps_forManifests hact hv) fun _ =>
      keeps_bind (ih hrest) fun _ => keeps_pure _

/-! ### What is true of a manifest once it has been met -/

/-- A property of a manifest holds once the manifest has been asked for: at once if it cannot be
read, else as soon as its package has been dealt with. -/
structure Establishes (source : ManifestSource) (act : Package → Action Unit)
    (I : Workspace → Prop) (P : Workspace → Path → Prop) (m : Path) : Prop where
  refused : ∀ ⦃w v reason⦄, I w →
    outcome (tryRegister source m.toString) w = (.ok (.error reason), v) → P v m
  met : ∀ ⦃w u v p⦄, I w → outcome (tryRegister source m.toString) w = (.ok (.ok p), u) →
    outcome (act p) u = (.ok (), v) → P v m

section Establish

variable {I : Workspace → Prop} {P : Workspace → Path → Prop} {w v : Workspace}
  {manifests : List Path} {packages : List Package}
  (hI : ∀ ⦃w v⦄, R w v → I w → I v) (hP : ∀ ⦃w v m⦄, R w v → I w → P w m → P v m)
  (hact : ∀ p, Keeps R (act p))
include hI hP hact

theorem forall_forManifests
    (htry : ∀ m ∈ manifests, Keeps R (tryRegister source m.toString))
    (hest : ∀ m ∈ manifests, Establishes source act I P m) (hw : I w)
    (hok : outcome (forManifests source act reporter manifests) w = (.ok packages, v)) :
    ∀ m ∈ manifests, P v m := by
  induction manifests generalizing w packages with
  | nil => exact fun _ hm => (nomatch hm)
  | cons m rest ih =>
    obtain ⟨hm, hrest⟩ := List.forall_mem_cons.1 htry
    obtain ⟨hhead, htail⟩ := List.forall_mem_cons.1 hest
    have hlater : Keeps R (forManifests source act reporter rest) := keeps_forManifests hact hrest
    obtain ⟨result, u, hask, hnext⟩ := outcome_bind_eq_ok hok
    have hu : I u := hI (hm.of_outcome hask) hw
    cases result with
    | error reason =>
      obtain ⟨_, x, hreport, hnext⟩ := outcome_bind_eq_ok hnext
      have hux : R u x := Keeps.of_outcome (keeps_report _ _ _) hreport
      have hx : I x := hI hux hu
      have hhere : P x m := hP hux hu (hhead.refused hw hask)
      exact List.forall_mem_cons.2
        ⟨hP (hlater.of_outcome hnext) hx hhere, ih hrest htail hx hnext⟩
    | ok p =>
      obtain ⟨_, x, hrun, hnext⟩ := outcome_bind_eq_ok hnext
      obtain ⟨others, y, hothers, hreturn⟩ := outcome_bind_eq_ok hnext
      obtain ⟨-, rfl⟩ := Prod.mk.inj hreturn
      have hx : I x := hI ((hact p).of_outcome hrun) hu
      have hhere : P x m := hhead.met hw hask hrun
      exact List.forall_mem_cons.2
        ⟨hP (hlater.of_outcome hothers) hx hhere, ih hrest htail hx hothers⟩

theorem forall_forPackages
    (htry : ∀ v ∈ visits, ∀ m ∈ v.listed, Keeps R (tryRegister source m.toString))
    (hest : ∀ v ∈ visits, ∀ m ∈ v.listed, Establishes source act I P m) (hw : I w)
    (hok : outcome (forPackages source act visits) w = (.ok packages, v)) :
    ∀ visit ∈ visits, ∀ m ∈ visit.listed, P v m := by
  induction visits generalizing w packages with
  | nil => exact fun _ hvisit => (nomatch hvisit)
  | cons visit rest ih =>
    obtain ⟨hvisit, hrest⟩ := List.forall_mem_cons.1 htry
    obtain ⟨hhead, htail⟩ := List.forall_mem_cons.1 hest
    obtain ⟨manifests, x, hlist, hnext⟩ := outcome_bind_eq_ok hok
    obtain ⟨found, y, hfound, hnext⟩ := outcome_bind_eq_ok hnext
    obtain ⟨others, z, hothers, hreturn⟩ := outcome_bind_eq_ok hnext
    obtain ⟨-, rfl⟩ := Prod.mk.inj hreturn
    obtain rfl : manifests = visit.listed := outcome_listedManifests (congrArg Prod.fst hlist)
    have hx : I x := hI (Keeps.of_outcome (keeps_listedManifests visit) hlist) hw
    have hy : I y := hI ((keeps_forManifests hact hvisit).of_outcome hfound) hx
    have hyz : R y z := (keeps_forPackages hact hrest).of_outcome hothers
    have hhere : ∀ m ∈ visit.listed, P y m :=
      forall_forManifests hI hP hact hvisit hhead hx hfound
    exact List.forall_mem_cons.2
      ⟨fun m hm => hP hyz hy (hhere m hm), ih hrest htail hy hothers⟩

end Establish

theorem keeps_packagesBelow (hact : ∀ p, Keeps (OnRegistry (Evolves scope)) (act p))
    (hroots : listedKeys source visits ⊆ scope.roots) :
    Keeps (OnRegistry (Evolves scope)) (forPackages source act visits) :=
  keeps_forPackages hact fun v hv m hm =>
    keeps_tryRegister fun _ hkey => hroots ⟨v, hv, m, hm, hkey⟩

/-- Does something to the packages of all manifests below a directory, and counts them. -/
def eachBelow (act : String → Action Unit) (h : Host) (source : ManifestSource)
    (ignored : List String) (directory : Path) : Action Nat := do
  let packages ← forPackages source (fun p => act p.manifest) (Visit.all h ignored directory)
  return packages.length

theorem keeps_eachBelow {act : String → Action Unit} {ignored : List String} {directory : Path}
    (hact : ∀ key, Keeps (OnRegistry (Evolves scope)) (act key))
    (hroots : listedKeys source (Visit.all h ignored directory) ⊆ scope.roots) :
    Keeps (OnRegistry (Evolves scope)) (eachBelow act h source ignored directory) :=
  keeps_bind (keeps_packagesBelow (fun p => hact p.manifest) hroots) fun _ => keeps_pure _

theorem keeps_resolveBelow {ignored : List String} {directory : Path}
    (hroots : listedKeys source (Visit.all h ignored directory) ⊆ scope.roots) :
    Keeps (OnRegistry (Evolves scope)) (resolveBelow h source ignored directory) :=
  keeps_eachBelow keeps_resolve hroots

theorem keeps_repairBelow {ignored : List String} {directory : Path} (hscope : scope.repairs)
    (hroots : listedKeys source (Visit.all h ignored directory) ⊆ scope.roots) :
    Keeps (OnRegistry (Evolves scope)) (repairBelow h source ignored directory) :=
  keeps_eachBelow (keeps_repair hscope) hroots

/-! ### Merging and publishing -/

section Publish

variable (hmerge : ∀ r key, Q r (r.mergePaths key))
  (hpublish : ∀ r (tree : DefineTree) key, Q r (r.publish tree key).1)

include hpublish in
theorem keeps_publishAndReport (p : Package) : Keeps (OnRegistry Q) (publishAndReport p) :=
  keeps_bind (fun w => hpublish w.registry w.defines p.manifest) fun _ =>
    keeps_bind keeps_get fun _ => keeps_report _ _ _

include hmerge hpublish

theorem keeps_publishVisit {v : Visit}
    (htry : ∀ m ∈ v.listed, Keeps (OnRegistry Q) (tryRegister source m.toString)) :
    Keeps (OnRegistry Q) (publishVisit h source v) := by
  refine keeps_bind (keeps_report _ _ _) fun _ => ?_
  refine keeps_bind (keeps_ofPathResult _) fun _ => ?_
  refine keeps_bind (keeps_addNode _) fun _ => ?_
  refine keeps_bind_of_ok (keeps_listedManifests v) fun _ manifests hok => ?_
  rw [outcome_listedManifests hok]
  refine keeps_bind (keeps_forManifests (fun _ => keeps_pure _) htry) fun packages => ?_
  refine keeps_bind (keeps_forM fun p _ w => hmerge w.registry p.manifest) fun _ => ?_
  exact keeps_forM fun p _ => keeps_publishAndReport hpublish p

theorem keeps_publishBelow {ignored : List String} {directory : Path}
    (htry : ∀ v ∈ Visit.all h ignored directory, ∀ m ∈ v.listed,
      Keeps (OnRegistry Q) (tryRegister source m.toString)) :
    Keeps (OnRegistry Q) (publishBelow h source ignored directory) :=
  keeps_forM fun v hv => keeps_publishVisit hmerge hpublish (htry v hv)

end Publish

end Workspace

end PascalWorkspace
