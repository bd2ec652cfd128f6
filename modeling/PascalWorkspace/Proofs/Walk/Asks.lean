import PascalWorkspace.Proofs.Package.Growth
import PascalWorkspace.Proofs.Walk.Heard
import PascalWorkspace.Proofs.Walk.Publish

/-! The manifests that a walk asks for, one after the other, and the packages that it gets. Whatever
is done in between, nothing else is asked for. -/
namespace PascalWorkspace

namespace Registry

variable {r s base : Registry} {key : String} {source : ManifestSource}

theorem isSome_find?_iff_mem : (r.find? key).isSome ↔ key ∈ r.packages.map (·.manifest) := by
  simp [find?, List.find?_isSome]

/-- The same manifests are registered. -/
def SameManifests (r s : Registry) : Prop :=
  s.packages.map (·.manifest) = r.packages.map (·.manifest)

theorem SameManifests.isSome_find? (h : SameManifests r s) (key : String) :
    (s.find? key).isSome = (r.find? key).isSome := by
  rw [Bool.eq_iff_iff, isSome_find?_iff_mem, isSome_find?_iff_mem, h]

theorem SameGraph.sameManifests (h : SameGraph r s) : SameManifests r s := by
  have hbare (t : Registry) :
      t.packages.map (·.manifest) = (t.packages.map Package.bare).map (·.manifest) := by
    rw [List.map_map]
    rfl
  rw [SameManifests, hbare s, h, hbare r]

/-- Nothing was asked for and nothing registered. -/
structure Idle (r s : Registry) : Prop where
  requested : s.requested = r.requested
  manifests : SameManifests r s

instance : IsPreorder Registry Idle where
  refl _ := ⟨rfl, rfl⟩
  trans _ _ _ hrs hst := ⟨hst.requested.trans hrs.requested, hst.manifests.trans hrs.manifests⟩

/-- Every registered manifest can be read. -/
def Readable (source : ManifestSource) (r : Registry) : Prop :=
  ∀ key ∈ r.packages.map (·.manifest), (source.package? key).isSome

theorem readable_empty (source : ManifestSource) : Readable source {} := fun _ hkey => nomatch hkey

theorem Readable.gains (h : Readable source r) (hs : Gains source.package? r s) :
    Readable source s := by
  obtain ⟨asked, hgrows⟩ := hs
  intro key hkey
  rw [hgrows.map_manifest fun _ _ => ManifestSource.manifest_of_package?] at hkey
  obtain hold | hnew := List.mem_append.1 hkey
  · exact h key hold
  · exact (List.mem_filter.1 hnew).2

theorem isSome_find?_of_gains (h : Gains source.package? r s) (hkey : (r.find? key).isSome) :
    (s.find? key).isSome := by
  obtain ⟨asked, hgrows⟩ := h
  rw [isSome_find?_iff_mem] at hkey ⊢
  rw [hgrows.map_manifest fun _ _ => ManifestSource.manifest_of_package?]
  exact List.mem_append_left _ hkey

theorem Readable.idle (h : Readable source r) (hs : Idle r s) : Readable source s := by
  rw [Readable, hs.manifests]
  exact h

/-- Nothing is registered if everything that is registered in another registry is. -/
def Closed (base r s : Registry) : Prop :=
  (∀ key, (base.find? key).isSome → (r.find? key).isSome) → SameManifests r s

instance : IsPreorder Registry (Closed base) where
  refl _ _ := rfl
  trans _ _ _ hrs hst hr := by
    have hsame := hrs hr
    exact (hst fun key hkey => (hsame.isSome_find? key).trans (hr key hkey)).trans hsame

theorem closed_of_sameManifests (h : SameManifests r s) : Closed base r s := fun _ => h

end Registry

/-- The key under which a manifest is registered, if it can be read. -/
def ManifestSource.accepted? (source : ManifestSource) (m : Path) : Option String :=
  (source.canonical m.toString).toOption.filter fun key => (source.package? key).isSome

namespace Workspace

open Operation Registry

variable {source : ManifestSource} {act : Package → Action Unit} {h : Host} {reporter : Reporter}
  {manifests others : List Path} {packages more : List Package} {visits : List Visit}
  {visit : Visit} {base : Registry} {m : Path} {w u v : Workspace} {ignored : List String}
  {directory : Path}

/-- A run that asks for some manifests in turn, gets some packages and does something to each at
once. -/
inductive Asks (source : ManifestSource) (act : Package → Action Unit) :
    List Path → List Package → Workspace → Workspace → Prop where
  | done {w v : Workspace} (hidle : OnRegistry Idle w v) : Asks source act [] [] w v
  | refused {m : Path} {rest : List Path} {packages : List Package} {w u x v : Workspace}
      {reason : String} (hidle : OnRegistry Idle w u)
      (hask : outcome (tryRegister source m.toString) u = (.ok (.error reason), x))
      (hrest : Asks source act rest packages x v) : Asks source act (m :: rest) packages w v
  | met {m : Path} {rest : List Path} {packages : List Package} {w u x y v : Workspace}
      {p : Package} (hidle : OnRegistry Idle w u)
      (hask : outcome (tryRegister source m.toString) u = (.ok (.ok p), x))
      (hact : outcome (act p) x = (.ok (), y)) (hrest : Asks source act rest packages y v) :
      Asks source act (m :: rest) (p :: packages) w v

theorem Asks.idle_left (hwu : OnRegistry Idle w u) (huv : Asks source act manifests packages u v) :
    Asks source act manifests packages w v := by
  cases huv with
  | done hidle => exact .done (trans_of (OnRegistry Idle) hwu hidle)
  | refused hidle hask hrest => exact .refused (trans_of (OnRegistry Idle) hwu hidle) hask hrest
  | met hidle hask hact hrest => exact .met (trans_of (OnRegistry Idle) hwu hidle) hask hact hrest

/-- Two runs one after the other ask for the manifests of both. -/
theorem Asks.append (hwu : Asks source act manifests packages w u)
    (huv : Asks source act others more u v) :
    Asks source act (manifests ++ others) (packages ++ more) w v := by
  induction hwu with
  | done hidle => exact huv.idle_left hidle
  | refused hidle hask _ ih => exact .refused hidle hask (ih huv)
  | met hidle hask hact _ ih => exact .met hidle hask hact (ih huv)

theorem Asks.idle_right (hwu : Asks source act manifests packages w u)
    (huv : OnRegistry Idle u v) : Asks source act manifests packages w v := by
  have hboth := hwu.append (.done huv)
  rwa [List.append_nil, List.append_nil] at hboth

/-- A run gets the packages of the manifests that can be read, in order. -/
theorem Asks.yields (h : Asks source act manifests packages w v)
    (hact : ∀ p, Keeps (OnRegistry (Gains source.package?)) (act p))
    (hw : Readable source w.registry) :
    packages.map (·.manifest) = manifests.filterMap source.accepted? := by
  induction h with
  | done => rfl
  | @refused m rest packages w u x v reason hidle hask _ ih =>
    have hx : Readable source x.registry :=
      (hw.idle hidle).gains ((gains_tryRegister source m.toString).of_outcome hask)
    obtain ⟨key, path, fault, hkey, -, hread, -⟩ := refused_tryRegister hask
    have hnone : source.accepted? m = none := by
      simp [ManifestSource.accepted?, ManifestSource.package?, hkey, hread, Except.toOption]
    rw [List.filterMap_cons_none hnone, ih hx]
  | @met m rest packages w u x y v p hidle hask hrun _ ih =>
    have hx : Readable source x.registry :=
      (hw.idle hidle).gains ((gains_tryRegister source m.toString).of_outcome hask)
    have hy : Readable source y.registry := hx.gains ((hact p).of_outcome hrun)
    obtain ⟨hkey, -, hfind⟩ := admits_tryRegister hask
    have hread := hx p.manifest (isSome_find?_iff_mem.1 (by simp [hfind]))
    have hsome : source.accepted? m = some p.manifest := by
      simp [ManifestSource.accepted?, hkey, hread, Except.toOption]
    rw [List.filterMap_cons_some hsome, List.map_cons, ih hy]

/-! ### What the walks ask for -/

theorem asks_forManifests
    (hok : outcome (forManifests source act reporter manifests) w = (.ok packages, v)) :
    Asks source act manifests packages w v := by
  induction manifests generalizing w packages with
  | nil =>
    obtain ⟨hpackages, rfl⟩ := Prod.mk.inj hok
    obtain rfl := Except.ok.inj hpackages
    exact .done (refl_of (OnRegistry Idle) _)
  | cons m rest ih =>
    obtain ⟨result, u, hask, hnext⟩ := outcome_bind_eq_ok hok
    have hhere : OnRegistry Idle w w := refl_of (OnRegistry Idle) w
    cases result with
    | error reason =>
      obtain ⟨_, x, hreport, hnext⟩ := outcome_bind_eq_ok hnext
      have hidle : OnRegistry Idle u x := Keeps.of_outcome (keeps_report _ _ _) hreport
      exact .refused hhere hask ((ih hnext).idle_left hidle)
    | ok p =>
      obtain ⟨_, x, hrun, hnext⟩ := outcome_bind_eq_ok hnext
      obtain ⟨others, y, hothers, hreturn⟩ := outcome_bind_eq_ok hnext
      obtain ⟨hpackages, rfl⟩ := Prod.mk.inj hreturn
      obtain rfl := Except.ok.inj hpackages
      exact .met hhere hask hrun (ih hothers)

theorem asks_forPackages
    (hok : outcome (forPackages source act visits) w = (.ok packages, v)) :
    Asks source act (visits.flatMap Visit.listed) packages w v := by
  induction visits generalizing w packages with
  | nil =>
    obtain ⟨hpackages, rfl⟩ := Prod.mk.inj hok
    obtain rfl := Except.ok.inj hpackages
    exact .done (refl_of (OnRegistry Idle) _)
  | cons visit rest ih =>
    obtain ⟨manifests, x, hlist, hnext⟩ := outcome_bind_eq_ok hok
    obtain ⟨found, y, hfound, hnext⟩ := outcome_bind_eq_ok hnext
    obtain ⟨others, z, hothers, hreturn⟩ := outcome_bind_eq_ok hnext
    obtain ⟨hpackages, rfl⟩ := Prod.mk.inj hreturn
    obtain rfl := Except.ok.inj hpackages
    obtain rfl : manifests = visit.listed := outcome_listedManifests (congrArg Prod.fst hlist)
    have hidle : OnRegistry Idle w x := Keeps.of_outcome (keeps_listedManifests visit) hlist
    exact ((asks_forManifests hfound).idle_left hidle).append (ih hothers)

theorem idle_mergePaths (key : String) : Keeps (OnRegistry Idle) (mergePaths key) :=
  fun _ => ⟨requested_mergeAll _, sameGraph_mergePaths.sameManifests⟩

theorem idle_publishAndReport (p : Package) : Keeps (OnRegistry Idle) (publishAndReport p) :=
  keeps_publishAndReport (fun _ _ _ =>
    ⟨requested_publishAll _ _, (sameGraph_publishAll _ _).sameManifests⟩) p

theorem asks_publishVisit (hok : outcome (publishVisit h source visit) w = (.ok (), v)) :
    ∃ packages, Asks source (fun _ => pure ()) visit.listed packages w v := by
  obtain ⟨_, a, hreport, hnext⟩ := outcome_bind_eq_ok hok
  obtain ⟨directory, b, hcanonical, hnext⟩ := outcome_bind_eq_ok hnext
  obtain ⟨_, c, hnode, hnext⟩ := outcome_bind_eq_ok hnext
  obtain ⟨manifests, d, hlist, hnext⟩ := outcome_bind_eq_ok hnext
  obtain ⟨packages, e, hpackages, hnext⟩ := outcome_bind_eq_ok hnext
  obtain ⟨_, f, hmerge, hpublish⟩ := outcome_bind_eq_ok hnext
  obtain rfl : manifests = visit.listed := outcome_listedManifests (congrArg Prod.fst hlist)
  have ha : OnRegistry Idle w a := Keeps.of_outcome (keeps_report _ _ _) hreport
  have hb : OnRegistry Idle a b := Keeps.of_outcome (keeps_ofPathResult _) hcanonical
  have hc : OnRegistry Idle b c := Keeps.of_outcome (keeps_addNode _) hnode
  have hd : OnRegistry Idle c d := Keeps.of_outcome (keeps_listedManifests visit) hlist
  have hf : OnRegistry Idle e f :=
    (keeps_forM fun p _ => idle_mergePaths p.manifest).of_outcome hmerge
  have hv : OnRegistry Idle f v :=
    (keeps_forM fun p _ => idle_publishAndReport p).of_outcome hpublish
  have hasks := ((asks_forManifests hpackages).idle_right hf).idle_right hv
  exact ⟨packages, (((hasks.idle_left hd).idle_left hc).idle_left hb).idle_left ha⟩

theorem asks_publishVisits
    (hok : outcome (visits.forM (publishVisit h source)) w = (.ok (), v)) :
    ∃ packages, Asks source (fun _ => pure ()) (visits.flatMap Visit.listed) packages w v := by
  induction visits generalizing w with
  | nil =>
    obtain ⟨-, rfl⟩ := Prod.mk.inj hok
    exact ⟨[], .done (refl_of (OnRegistry Idle) _)⟩
  | cons visit rest ih =>
    obtain ⟨_, u, hvisit, hrest⟩ := outcome_bind_eq_ok hok
    obtain ⟨packages, hfirst⟩ := asks_publishVisit hvisit
    obtain ⟨others, hothers⟩ := ih hrest
    exact ⟨packages ++ others, hfirst.append hothers⟩

/-! ### Walks over a way that has been asked for before -/

/-- A walk that deals with packages has asked for all manifests on its way when it ends well. -/
theorem heard_of_forPackages (hact : ∀ p, Keeps (OnRegistry (Gains source.package?)) (act p))
    (hok : outcome (forPackages source act visits) w = (.ok packages, v)) :
    ∀ visit ∈ visits, ∀ m ∈ visit.listed, Heard source v.registry m := by
  refine forall_forPackages (R := OnRegistry (Gains source.package?)) (I := fun _ => True)
    (P := fun w m => Heard source w.registry m) (fun _ _ _ _ => trivial)
    (fun w v m hwv _ hm key hkey => (hm key hkey).imp_left (isSome_find?_of_gains hwv)) hact
    (fun _ _ m _ => gains_tryRegister source m.toString) (fun _ _ m _ => ?_) trivial hok
  refine ⟨fun w v reason _ hask key hkey => ?_, fun w u v p _ hask hrun key hkey => ?_⟩
  · obtain ⟨other, path, fault, hother, -, hread, -⟩ := refused_tryRegister hask
    obtain rfl := Except.ok.inj (hkey.symm.trans hother)
    exact .inr ⟨path, fault, hread⟩
  · obtain ⟨hcanonical, -, hfind⟩ := admits_tryRegister hask
    obtain rfl := Except.ok.inj (hkey.symm.trans hcanonical)
    exact .inl (isSome_find?_of_gains ((hact p).of_outcome hrun) (by simp [hfind]))

theorem closed_tryRegister (hm : Heard source base m) :
    Keeps (OnRegistry (Closed base)) (tryRegister source m.toString) := by
  intro w hw
  obtain ⟨requested, hafter⟩ := requested_tryRegister hm hw
  rw [hafter]
  rfl

theorem closed_repair (key : String) : Keeps (OnRegistry (Closed base)) (repair key) := by
  refine keeps_repair_of_borrow (fun w ref target log _ => closed_of_sameManifests ?_) key
  rw [SameManifests, setTarget, update, List.map_map]
  refine List.map_congr_left fun p _ => ?_
  by_cases hp : p.manifest = ref.manifest <;> simp [hp, Package.withTarget]

section Heard

variable (hheard : ∀ visit ∈ Visit.all h ignored directory, ∀ m ∈ visit.listed, Heard source base m)
include hheard

theorem closed_repairBelow :
    Keeps (OnRegistry (Closed base)) (repairBelow h source ignored directory) :=
  keeps_bind (keeps_forPackages (fun p => closed_repair p.manifest) fun visit hvisit m hm =>
    closed_tryRegister (hheard visit hvisit m hm)) fun _ => keeps_pure _

theorem closed_publishBelow :
    Keeps (OnRegistry (Closed base)) (publishBelow h source ignored directory) :=
  keeps_publishBelow (fun _ _ => closed_of_sameManifests sameGraph_mergePaths.sameManifests)
    (fun _ _ _ => closed_of_sameManifests (sameGraph_publishAll _ _).sameManifests)
    fun visit hvisit m hm => closed_tryRegister (hheard visit hvisit m hm)

end Heard

end Workspace

end PascalWorkspace
