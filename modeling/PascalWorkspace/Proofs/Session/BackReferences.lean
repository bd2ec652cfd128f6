import PascalWorkspace.Proofs.Package.BackReferences
import PascalWorkspace.Proofs.Package.Roots
import PascalWorkspace.Proofs.Session.Targets

/-! In every session the references between packages agree in both directions, up to the targets
that are borrowed. -/
namespace PascalWorkspace

namespace Session

open Operation Registry

variable {s : Session} {calls : List Call} {scope : Scope} {act : String → Action Unit}

/-- The session after some calls in turn, with something else done wherever a package would be
repaired. -/
def performAllWith (act : String → Action Unit) (s : Session) (calls : List Call) : Session :=
  calls.foldl (performWith act) s

/-- No package is repaired in the course of some calls: whatever is done in place of repairs, they
have the same effect. -/
def NeverRepairs (s : Session) (calls : List Call) : Prop :=
  ∀ act, s.performAllWith act calls = s.performAll calls

/-- Whether packages are repaired in the course of a call, provided that it gets so far. -/
def Call.mayRepair : Call → Bool
  | .repair _ | .repairBelow .. | .scan .. | .serve .. => true
  | _ => false

theorem performWith_of_mayRepair {c : Call} (h : c.mayRepair = false) :
    s.performWith act c = s.perform c := by
  cases c with
  | repair | repairBelow | scan | serve => cases h
  | _ => rfl

theorem neverRepairs_of_mayRepair (h : ∀ c ∈ calls, c.mayRepair = false) :
    NeverRepairs s calls := by
  intro act
  induction calls generalizing s with
  | nil => rfl
  | cons c calls ih =>
    obtain ⟨hc, hcalls⟩ := List.forall_mem_cons.1 h
    have hfirst : s.performWith act c = s.perform c := performWith_of_mayRepair hc
    rw [performAllWith, List.foldl_cons, hfirst]
    exact ih hcalls

theorem evolves_performAllWith
    (hact : ∀ key, Keeps (Workspace.OnRegistry (Registry.Evolves scope)) (act key))
    (hroots : ∀ key, key ∈ scope.roots) (hscope : scope.finishes) (s : Session)
    (calls : List Call) :
    OnWorkspace (Workspace.OnRegistry (Registry.Evolves scope)) s (s.performAllWith act calls) := by
  induction calls generalizing s with
  | nil => exact refl_of (Registry.Evolves scope) s.workspace.registry
  | cons c calls ih =>
    have hfirst := evolves_performWith hact hroots hscope s c
    exact trans_of (Registry.Evolves scope) hfirst (ih (s.performWith act c))

/-- Where no package is repaired no target is borrowed. -/
theorem NeverRepairs.steps (h : NeverRepairs s calls) (hs : s.workspace.registry = {}) :
    Steps ⟨Set.univ, False, True⟩ {} (s.performAll calls).workspace.registry := by
  have hidle (key : String) :
      Keeps (Workspace.OnRegistry (Registry.Evolves ⟨Set.univ, False, True⟩))
        ((fun _ => pure ()) key : Action Unit) := keeps_pure ()
  have hevolves := evolves_performAllWith hidle (fun _ => trivial) trivial s calls
  rw [h] at hevolves
  have hsteps : Registry.Evolves _ s.workspace.registry _ := hevolves
  rw [hs] at hsteps
  exact hsteps sound_empty

/-- Targets and dependents are registered packages. The dependencies of two packages have been
looked for if one was found to need the other. A package is among those found to need another at
most as often as its dependencies lead there, and exactly as often unless packages have been
repaired. -/
theorem references_agree (s : Session) (calls : List Call) (hs : s.workspace.registry = {}) :
    let packages := (s.performAll calls).workspace.registry.packages
    (∀ p ∈ packages, ∀ d ∈ p.dependencies, ∀ target, d.target = some target →
      ∃! t, t ∈ packages ∧ t.manifest = target) ∧
    (∀ t ∈ packages, ∀ key ∈ t.requiredBy, ∃! p, p ∈ packages ∧ p.manifest = key) ∧
    ∀ p ∈ packages, ∀ t ∈ packages,
      (p.manifest ∈ t.requiredBy → p.isResolved = true ∧ t.isResolved = true) ∧
      t.requiredBy.count p.manifest ≤
        p.dependencies.countP (fun d => d.target == some t.manifest) ∧
      (NeverRepairs s calls → t.requiredBy.count p.manifest =
        p.dependencies.countP fun d => d.target == some t.manifest) := by
  intro packages
  have hsteps := steps_performAll hs calls
  have hdistinct := (sound_steps hsteps sound_empty).distinct
  have hunique {key : String}
      (hkey : ((s.performAll calls).workspace.registry.find? key).isSome) :
      ∃! p, p ∈ packages ∧ p.manifest = key := by
    obtain ⟨p, hp⟩ := Option.isSome_iff_exists.1 hkey
    refine ⟨p, ⟨find?_mem hp, find?_manifest hp⟩, ?_⟩
    rintro q ⟨hq, rfl⟩
    exact Option.some.inj ((find?_of_mem hdistinct hq).symm.trans hp)
  refine ⟨?_, ?_, ?_⟩
  · intro p hp d hd target htarget
    obtain ⟨index, hdependency⟩ := exists_dependency?_of_mem (find?_of_mem hdistinct hp) hd
    exact hunique (isSome_find?_of_target hsteps hdependency htarget)
  · intro t ht key hkey
    have hrequired : (s.performAll calls).workspace.registry.RequiredBy t.manifest key := by
      rwa [RequiredBy, dependentsOf_of_find? (find?_of_mem hdistinct ht)]
    have hresolved := (isResolvedAt_of_requiredBy hsteps hrequired).1
    exact hunique (isSome_find?_of_isResolvedAt hresolved)
  · intro p hp t ht
    have hfindp := find?_of_mem hdistinct hp
    have hfindt := find?_of_mem hdistinct ht
    rw [← backward_of_find? hfindt, ← forward_of_find? hfindp]
    refine ⟨fun hkey => ?_, backward_le_forward hsteps _ _, fun hnever => ?_⟩
    · rw [← dependentsOf_of_find? hfindt] at hkey
      rw [← isResolvedAt_of_find? hfindp, ← isResolvedAt_of_find? hfindt]
      exact isResolvedAt_of_requiredBy hsteps hkey
    · exact backward_eq_forward (hnever.steps hs) not_false _ _

/-- Two manifests that need each other. -/
def cycleSource : ManifestSource :=
  .ofTable { tree := .empty, cwd := [], environment := [], homes := [] } [
    ("/a", ⟨"a", "/", {}, [⟨"b", "/b", false⟩]⟩),
    ("/b", ⟨"b", "/", {}, [⟨"a", "/a", false⟩]⟩)]

def cycleCalls : List Call :=
  [.register cycleSource "/a", .resolve cycleSource "/a", .resolve cycleSource "/b",
    .register cycleSource "/b", .resolve cycleSource "/a"]

theorem requiredBy_cycle :
    (({} : Session).performAll cycleCalls).workspace.registry.packages.map (·.requiredBy) =
      [["/b"], ["/a"]] := by cbv

/-- Each of the two is required once by the other, however often they are looked for. -/
theorem references_agree_cycle :
    ({} : Session).workspace.registry = {} ∧ NeverRepairs {} cycleCalls ∧
      (({} : Session).performAll cycleCalls).workspace.registry.packages.map (·.requiredBy) =
        [["/b"], ["/a"]] ∧
      ∀ p ∈ (({} : Session).performAll cycleCalls).workspace.registry.packages,
        ∀ t ∈ (({} : Session).performAll cycleCalls).workspace.registry.packages,
          t.requiredBy.count p.manifest =
            p.dependencies.countP fun d => d.target == some t.manifest := by
  have hnever : NeverRepairs {} cycleCalls := neverRepairs_of_mayRepair (by decide)
  obtain ⟨-, -, hcount⟩ := references_agree {} cycleCalls rfl
  exact ⟨rfl, hnever, requiredBy_cycle, fun p hp t ht => (hcount p hp t ht).2.2 hnever⟩

end Session

end PascalWorkspace
