import PascalWorkspace.Proofs.Package.Growth
import PascalWorkspace.Proofs.Package.NameIndex
import PascalWorkspace.Proofs.Session.Targets

/-! The registry of a session over whole runs: it is indexed by manifests and by names, registered
packages are there for good, and a manifest is read with success once at most, however often it is
asked for and whatever comes of other calls. -/
namespace PascalWorkspace

namespace Session

open Operation Registry

variable {s : Session} {calls : List Call} {c : Call}

/-- The source that a call reads manifests of. -/
def Call.source? : Call → Option ManifestSource
  | .register source _ | .resolve source _ | .resolveBelow _ source _ _ => some source
  | .repairBelow _ source _ _ | .publishBelow _ source _ _ | .scan _ source _ => some source
  | .serve surroundings _ => some surroundings.source
  | .repair _ | .mergePaths _ | .publish _ => none

/-- The package of a manifest that a call reads, if it reads and the manifest can be read. -/
def Call.package? : Call → String → Option Package
  | .register source _ => source.package?
  | .resolve source _ => source.package?
  | .resolveBelow _ source _ _ => source.package?
  | .repairBelow _ source _ _ => source.package?
  | .publishBelow _ source _ _ => source.package?
  | .scan _ source _ => source.package?
  | .serve surroundings _ => surroundings.source.package?
  | .repair _ | .mergePaths _ | .publish _ => fun _ => none

theorem Call.manifest_of_package? {key : String} {p : Package} (h : c.package? key = some p) :
    p.manifest = key := by
  cases c with
  | repair | mergePaths | publish => cases h
  | _ => exact ManifestSource.manifest_of_package? h

/-- The manifests that a call reads with success. -/
def readBy (s : Session) (c : Call) : List String :=
  let asked := (s.perform c).workspace.registry.requested.drop
    s.workspace.registry.requested.length
  asked.filter fun key => (c.package? key).isSome

/-- The manifests that some calls in turn read with success. -/
def readByAll (s : Session) : List Call → List String
  | [] => []
  | c :: calls => s.readBy c ++ (s.perform c).readByAll calls

section Absorbed

variable {R : Registry → Registry → Prop} [IsPreorder Registry R]

theorem absorbed_scan {source : ManifestSource} (hR : Workspace.Absorbs (some source) R) (h : Host)
    (root : Path) : Keeps (OnWorkspace (Workspace.OnRegistry R)) (scan h source root) :=
  keeps_scan (fun _ => Workspace.absorbed_resolveBelow hR)
    (fun _ => Workspace.absorbed_repairBelow hR) fun _ => Workspace.absorbed_publishBelow hR

/-- What a call does to the registry comes of asking its source and of what is found out about
packages. -/
theorem absorbed_perform (hR : Workspace.Absorbs c.source? R) (s : Session) :
    OnWorkspace (Workspace.OnRegistry R) s (s.perform c) := by
  cases c with
  | register source path => exact keeps_onWorkspace (Workspace.absorbed_register hR path) s
  | resolve source key => exact keeps_onWorkspace (Workspace.absorbed_resolve hR key) s
  | repair key => exact keeps_onWorkspace (Workspace.absorbed_repair hR key) s
  | mergePaths key => exact hR.found _ _ (develops_mergeAll _)
  | publish key => exact hR.found _ _ (develops_publishAll _ _)
  | resolveBelow => exact keeps_onWorkspace (Workspace.absorbed_resolveBelow hR) s
  | repairBelow => exact keeps_onWorkspace (Workspace.absorbed_repairBelow hR) s
  | publishBelow => exact keeps_onWorkspace (Workspace.absorbed_publishBelow hR) s
  | scan h source root => exact absorbed_scan hR h root s
  | serve surroundings params =>
    -- A request scans with the source of its surroundings only.
    have hserve : Handshake.serve surroundings params = Handshake.serveWith
        (fun h _ root => scan h surroundings.source root) surroundings params := by
      cases params <;> rfl
    rw [perform, hserve]
    exact Handshake.keeps_serveWith (fun h _ root => absorbed_scan hR h root) params s

end Absorbed

theorem Call.absorbs_gains (c : Call) : Workspace.Absorbs c.source? (Gains c.package?) := by
  cases c with
  | repair | mergePaths | publish =>
    exact ⟨fun source hsource => (nomatch hsource), fun r s h => h.gains⟩
  | _ => exact Workspace.absorbs_gains _

theorem gains_perform (s : Session) (c : Call) :
    OnWorkspace (Workspace.OnRegistry (Gains c.package?)) s (s.perform c) :=
  absorbed_perform c.absorbs_gains s

/-- What a call registers is what it reads with success. -/
theorem map_manifest_perform (s : Session) (c : Call) :
    (s.perform c).workspace.registry.packages.map (·.manifest) =
      s.workspace.registry.packages.map (·.manifest) ++ s.readBy c := by
  obtain ⟨asked, hgrows⟩ := gains_perform s c
  have hasked : (s.perform c).workspace.registry.requested.drop
      s.workspace.registry.requested.length = asked := by
    rw [hgrows.requested, List.drop_left]
  rw [readBy, hasked]
  exact hgrows.map_manifest fun _ _ => Call.manifest_of_package?

theorem map_manifest_performAll (s : Session) (calls : List Call) :
    (s.performAll calls).workspace.registry.packages.map (·.manifest) =
      s.workspace.registry.packages.map (·.manifest) ++ s.readByAll calls := by
  induction calls generalizing s with
  | nil => exact (List.append_nil _).symm
  | cons c calls ih =>
    have hrest := ih (s.perform c)
    rw [map_manifest_perform, List.append_assoc] at hrest
    exact hrest

/-- Some packages are there for good. -/
def Lasts (packages : List Package) (s : Session) : Prop :=
  ∃ old new, s.workspace.registry.packages = old ++ new ∧ List.Forall₂ Package.Grows packages old

theorem lasts_perform {packages : List Package} (hs : Lasts packages s) (c : Call) :
    Lasts packages (s.perform c) := by
  obtain ⟨old, new, hsplit, hold⟩ := hs
  obtain ⟨asked, hgrows⟩ := gains_perform s c
  obtain ⟨now, more, hlater, hnow, -⟩ := hgrows.exists_packages
  rw [hsplit] at hnow
  refine ⟨now.take old.length, now.drop old.length ++ more, ?_, ?_⟩
  · rw [← List.append_assoc, List.take_append_drop, hlater]
  · have htake := List.forall₂_take old.length hnow
    rw [List.take_left] at htake
    exact forall₂_grows_trans hold htake

theorem lasts_performAll {packages : List Package} (hs : Lasts packages s) (calls : List Call) :
    Lasts packages (s.performAll calls) := by
  induction calls generalizing s with
  | nil => exact hs
  | cons c calls ih => exact ih (lasts_perform hs c)

/-- Asking for a manifest in vain leaves no more than the question behind. -/
theorem of_register_error {source : ManifestSource} {path : String} {failure : Failure}
    {t : Session}
    (hrun : outcome (onWorkspace (Workspace.register source path)) s = (.error failure, t)) :
    ∃ requested, t = { s with workspace.registry.requested := requested } := by
  rw [outcome_onWorkspace] at hrun
  cases hkey : source.canonical path with
  | error e =>
    rw [Workspace.outcome_register_badPath hkey] at hrun
    exact ⟨_, (Prod.mk.inj hrun).2.symm⟩
  | ok key =>
    cases hfind : s.workspace.registry.find? key with
    | some p =>
      rw [Workspace.outcome_register_known hkey hfind] at hrun
      cases (Prod.mk.inj hrun).1
    | none =>
      cases hread : source.read key with
      | ok m =>
        rw [Workspace.outcome_register_new hkey hfind hread] at hrun
        cases (Prod.mk.inj hrun).1
      | error e =>
        rw [Workspace.outcome_register_refused hkey hfind hread] at hrun
        exact ⟨_, (Prod.mk.inj hrun).2.symm⟩

/-- Over any calls, failing ones too, the registry stays indexed by manifests and by names; later
calls leave the packages where they are, as they were read, and every name with the manifest that it
leads to; a manifest that cannot be had changes nothing; and what is registered is, one for one and
in order, what has been read with success. -/
theorem registry_integrity (s : Session) (calls later : List Call)
    (hs : s.workspace.registry = {}) :
    let now := (s.performAll calls).workspace.registry
    let last := (s.performAll (calls ++ later)).workspace.registry
    now.Indexed ∧
    (∃ old new, last.packages = old ++ new ∧ List.Forall₂ Package.Grows now.packages old) ∧
    (∀ name found, now.lookup? name = some found → last.lookup? name = some found) ∧
    (∀ source path failure t,
      outcome (onWorkspace (Workspace.register source path)) (s.performAll calls) =
        (.error failure, t) →
      ∃ requested, t = { s.performAll calls with workspace.registry.requested := requested }) ∧
    now.packages.map (·.manifest) = s.readByAll calls ∧ (s.readByAll calls).Nodup := by
  intro now last
  have hsplit : s.performAll (calls ++ later) = (s.performAll calls).performAll later :=
    List.foldl_append
  have hsound := sound_performAll hs calls
  have hread : now.packages.map (·.manifest) = s.readByAll calls := by
    have hall := map_manifest_performAll s calls
    rw [hs] at hall
    exact hall
  refine ⟨(catalogued_performAll hs calls).indexed hsound.distinct, ?_, fun name found hfound => ?_,
    fun _ _ _ _ => of_register_error, hread, hread ▸ hsound.distinct⟩
  · have hbegin : Lasts now.packages (s.performAll calls) :=
      ⟨_, [], (List.append_nil _).symm, forall₂_grows_refl _⟩
    have hlast := lasts_performAll hbegin later
    rwa [← hsplit] at hlast
  · have hevolves := evolves_performAll (s.performAll calls) later hsound
    rw [← hsplit] at hevolves
    exact lookup?_steps hevolves hfound

/-- A machine without files, on which manifests come from tables. -/
def bareHost : Host where
  tree := .empty
  cwd := []
  environment := []
  homes := []

/-- Two manifests of one name, in letters of either case. -/
def clashingSource : ManifestSource :=
  .ofTable bareHost [("/a", ⟨"Lib", "/", {}, []⟩), ("/b", ⟨"LIB", "/", {}, []⟩)]

/-- The first manifest is asked for before it can be read, and twice after. -/
def clashingCalls : List Call :=
  [.register (.ofTable bareHost []) "/a", .register clashingSource "/b",
    .register clashingSource "/c/../a", .register clashingSource "/a"]

theorem readByAll_clashing : ({} : Session).readByAll clashingCalls = ["/b", "/a"] := by cbv

theorem lookup?_clashing :
    (({} : Session).performAll clashingCalls).workspace.registry.lookup? "lib" = some "/b" := by cbv

/-- Each of the two is read with success once, and the name leads to the one that was read first. -/
theorem registry_integrity_clashing :
    ({} : Session).workspace.registry = {} ∧
      (({} : Session).performAll clashingCalls).workspace.registry.packages.map (·.manifest) =
        ["/b", "/a"] ∧
      ∀ later, (({} : Session).performAll (clashingCalls ++ later)).workspace.registry.lookup?
        "lib" = some "/b" := by
  have hread := registry_integrity {} clashingCalls [] rfl
  rw [readByAll_clashing] at hread
  refine ⟨rfl, hread.2.2.2.2.1, fun later => ?_⟩
  exact (registry_integrity {} clashingCalls later rfl).2.2.1 "lib" "/b" lookup?_clashing

end Session

end PascalWorkspace
