import PascalWorkspace.Proofs.Walk.Directories
import PascalWorkspace.Proofs.Walk.Heard
import PascalWorkspace.Proofs.Walk.Usable

/-! Walks over a way on which nothing is left to do. They end well and leave the packages as they
are, and the last one adds the nodes of the directories. -/
namespace PascalWorkspace

namespace Registry

variable {r s : Registry} {key : String} {p : Package} {place : DependencyRef}

/-- To publish a published package again does nothing. -/
theorem publish_of_published (tree : DefineTree) (hfind : r.find? key = some p)
    (hp : p.isPublished = true) : r.publish tree key = (r, tree) := by
  rw [publish, publishAll_of_known hfind, if_pos hp, publishAll]

/-- Where there is nothing left to borrow, merging and publishing bring up nothing. -/
theorem SameGraph.settled (h : SameGraph r s) (hplace : Settled r r place) : Settled s s place :=
  fun e he hknows => hplace e (h.dependency?.symm.trans he) (h.repaired.knows_iff.1 hknows)

end Registry

namespace Workspace

open Operation Registry

variable {source : ManifestSource} {h : Host} {reporter : Reporter} {visits : List Visit}
  {visit : Visit} {r : Registry} {defines : DefineTree} {m : Path} {p : Package} {w v : Workspace}
  {directory : String}

/-- The packages and the nodes are still the same. -/
structure Still (r : Registry) (defines : DefineTree) (w : Workspace) : Prop where
  packages : w.registry.packages = r.packages
  byName : w.registry.byName = r.byName
  defines : w.defines = defines

/-- Nothing is left to do for the packages that there are, and the manifests on a way can be asked
for again. -/
structure Complete (source : ManifestSource) (visits : List Visit) (r : Registry) : Prop where
  distinct : r.Distinct
  resolved : ∀ p ∈ r.packages, p.isResolved = true
  merged : ∀ p ∈ r.packages, p.isMerged = true
  published : ∀ p ∈ r.packages, p.isPublished = true
  passable : ∀ visit ∈ visits, visit.Passable
  canonical : ∀ visit ∈ visits, ∀ m ∈ visit.listed, ∃ key, source.canonical m.toString = .ok key
  heard : ∀ visit ∈ visits, ∀ m ∈ visit.listed, Heard source r m
  settled : ∀ place : DependencyRef, place.manifest ∈ listedKeys source visits → Settled r r place

theorem Still.log (hw : Still r defines w) (log : Log) : Still r defines { w with log } :=
  ⟨hw.packages, hw.byName, hw.defines⟩

theorem Still.find? (hw : Still r defines w) (key : String) :
    w.registry.find? key = r.find? key := by
  rw [Registry.find?, hw.packages, Registry.find?]

theorem Still.sameGraph (hw : Still r defines w) : SameGraph r w.registry :=
  congrArg (List.map Package.bare) hw.packages

section Complete

variable (hr : Complete source visits r)
include hr

theorem Complete.find? (hw : Still r defines w) (hp : p ∈ r.packages) :
    w.registry.find? p.manifest = some p := by
  rw [hw.find?, find?_of_mem hr.distinct hp]

/-- A manifest on the way is known, or it is refused again. -/
theorem Complete.tryRegister (hvisit : visit ∈ visits) (hm : m ∈ visit.listed) :
    Triple Never (Still r defines) (tryRegister source m.toString) fun result w =>
      Still r defines w ∧
        ∀ p, result = .ok p → p ∈ r.packages ∧ p.manifest ∈ listedKeys source visits := by
  intro w hw
  obtain ⟨key, hkey⟩ := hr.canonical visit hvisit m hm
  rw [outcome_tryRegister, after]
  cases hfind : w.registry.find? key with
  | some p =>
    rw [outcome_register_known hkey hfind]
    refine .inl ⟨_, _, rfl, hw, fun q hq => ?_⟩
    obtain rfl : p = q := Except.ok.inj hq
    obtain rfl := find?_manifest hfind
    exact ⟨hw.packages ▸ find?_mem hfind, visit, hvisit, m, hm, hkey⟩
  | none =>
    obtain hsome | ⟨path, fault, hread⟩ := hr.heard visit hvisit m hm key hkey
    · rw [← hw.find?, hfind] at hsome
      cases hsome
    · rw [outcome_register_refused hkey hfind hread]
      exact .inl ⟨_, _, rfl, ⟨hw.packages, hw.byName, hw.defines⟩, by simp⟩

theorem Complete.resolve (hp : p ∈ r.packages) :
    Triple Never (Still r defines) (resolve source p.manifest) fun _ => Still r defines := by
  intro w hw
  have hfind := hr.find? hw hp
  exact .inl ⟨(), w, by simp [Workspace.resolve, outcome_bind, hfind, hr.resolved p hp], hw⟩

theorem Complete.repair (hp : p.manifest ∈ listedKeys source visits) :
    Triple Never (Still r defines) (repair p.manifest) fun _ => Still r defines := by
  intro w hw
  refine .inl
    ⟨(), w, outcome_repair_of_settled (repaired_refl w.registry) fun place hplace => ?_, hw⟩
  exact hw.sameGraph.settled (hr.settled place (hplace ▸ hp))

theorem Complete.mergePaths (hp : p ∈ r.packages) :
    Triple Never (Still r defines) (mergePaths p.manifest) fun _ => Still r defines := by
  refine triple_modify fun w hw => ?_
  have hfind := hr.find? hw hp
  have hsame : w.registry.mergePaths p.manifest = w.registry :=
    mergePaths_of_done fun _ => by rw [isMergedAt_of_find? hfind, hr.merged p hp]
  dsimp only
  rwa [hsame]

theorem Complete.publishAndReport (hp : p ∈ r.packages) :
    Triple Never (Still r defines) (publishAndReport p) fun _ => Still r defines := by
  intro w hw
  obtain ⟨log, hrun⟩ := outcome_publishAndReport p w
  rw [publish_of_published w.defines (hr.find? hw hp) (hr.published p hp)] at hrun
  exact .inl ⟨(), _, hrun, hw.packages, hw.byName, hw.defines⟩

theorem Complete.forPackages {act : Package → Action Unit}
    (hact : ∀ p, p ∈ r.packages ∧ p.manifest ∈ listedKeys source visits →
      Triple Never (Still r defines) (act p) fun _ => Still r defines) :
    Triple Never (Still r defines) (forPackages source act visits) fun _ => Still r defines :=
  triple_forPackages (fun _ log hw => hw.log log) hr.passable
    (fun _ hvisit _ hm => hr.tryRegister hvisit hm) hact

theorem Complete.publishVisit (hvisit : visit ∈ visits)
    (hdirectory : h.canonical visit.directory.toString = .ok directory) :
    Triple Never (Still r defines) (publishVisit h source visit) fun _ =>
      Still r (defines.add (directoryNode directory)) := by
  have hlog (d : DefineTree) (w : Workspace) (log : Log) (hw : Still r d w) :
      Still r d { w with log } := hw.log log
  have hnode : Triple Never (Still r defines) (addNode (directoryNode directory)) fun _ =>
      Still r (defines.add (directoryNode directory)) :=
    triple_modify fun w hw =>
      ⟨hw.packages, hw.byName, congrArg (·.add (directoryNode directory)) hw.defines⟩
  refine triple_bind (triple_report (hlog _) _ _) fun _ => ?_
  refine triple_ofPathResult_bind (fun place hplace => ?_) (by simp [hdirectory])
  obtain rfl := Except.ok.inj (hdirectory.symm.trans hplace)
  refine triple_bind hnode fun _ => ?_
  refine triple_bind (triple_listedManifests (hlog _) (hr.passable visit hvisit)) fun manifests =>
    triple_of_fact fun hmanifests => ?_
  subst hmanifests
  refine triple_bind (triple_forManifests (hlog _) (fun m hm => hr.tryRegister hvisit hm)
    fun _ _ => triple_pure fun _ hw => hw) fun packages => triple_of_fact fun hpackages => ?_
  refine triple_bind (triple_forM fun p hp => hr.mergePaths (hpackages p hp).1) fun _ => ?_
  exact triple_forM fun p hp => hr.publishAndReport (hpackages p hp).1

/-- The last walk adds the node of each directory on the way. -/
theorem Complete.publishVisits {part : List Visit} {directories : List String}
    (hvisits : ∀ visit ∈ part, visit ∈ visits)
    (hdirectories : List.Forall₂
      (fun visit directory => h.canonical visit.directory.toString = .ok directory) part
      directories) :
    Triple Never (Still r defines) (part.forM (Workspace.publishVisit h source)) fun _ =>
      Still r ⟨defines.nodes ++ directories.map directoryNode⟩ := by
  induction hdirectories generalizing defines with
  | nil => exact triple_pure fun w hw => by rwa [List.map_nil, List.append_nil]
  | @cons visit directory rest directories hdirectory _ ih =>
    obtain ⟨hvisit, hrest⟩ := List.forall_mem_cons.1 hvisits
    refine triple_bind (hr.publishVisit hvisit hdirectory) fun _ => ?_
    have hlater : Triple Never (Still r (defines.add (directoryNode directory)))
        (rest.forM (Workspace.publishVisit h source)) _ := ih hrest
    rw [DefineTree.add, List.append_assoc, List.singleton_append] at hlater
    exact hlater

end Complete

/-- The directories that are published have canonical paths. -/
theorem exists_directories
    (hok : outcome (visits.forM (publishVisit h source)) w = (.ok (), v)) :
    ∃ directories, List.Forall₂
      (fun visit directory => h.canonical visit.directory.toString = .ok directory) visits
      directories := by
  induction visits generalizing w with
  | nil => exact ⟨[], .nil⟩
  | cons visit rest ih =>
    obtain ⟨_, u, hvisit, hrest⟩ := outcome_bind_eq_ok hok
    obtain ⟨directory, -, hdirectory, -⟩ := nodes_of_publishVisit hvisit
    obtain ⟨directories, hdirectories⟩ := ih hrest
    exact ⟨directory :: directories, .cons hdirectory hdirectories⟩

end Workspace

end PascalWorkspace
