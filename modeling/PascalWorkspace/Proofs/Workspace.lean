import PascalWorkspace.Proofs.Operation
import PascalWorkspace.Proofs.Package.Step

/-! How operations change the registry of a workspace, and what comes of asking for a manifest. -/
namespace PascalWorkspace

namespace Workspace

open Operation Registry

/-- Two workspaces are related by their registries. -/
def OnRegistry (Q : Registry → Registry → Prop) (w v : Workspace) : Prop := Q w.registry v.registry

/-- A relation that does not look at what is reported. -/
class IgnoresLog (R : Workspace → Workspace → Prop) : Prop where
  log (w : Workspace) (log : Log) : R w { w with log }

variable {Q : Registry → Registry → Prop} {R : Workspace → Workspace → Prop}
  {source : ManifestSource} {path key : String} {p : Package} {w v : Workspace} {scope : Scope}

instance [IsPreorder Registry Q] : IsPreorder Workspace (OnRegistry Q) where
  refl w := refl_of Q w.registry
  trans _ _ _ := trans_of Q

theorem onRegistry_of_eq [IsPreorder Registry Q] (h : v.registry = w.registry) :
    OnRegistry Q w v := by
  rw [OnRegistry, h]
  exact refl_of Q w.registry

instance [IsPreorder Registry Q] : IgnoresLog (OnRegistry Q) := ⟨fun _ _ => onRegistry_of_eq rfl⟩

@[simp] theorem outcome_report (level : Level) (reporter : Reporter) (text : String) :
    outcome (report level reporter text) w =
      (.ok (), { w with log := w.log.push ⟨level, reporter, text⟩ }) := rfl

@[simp] theorem outcome_changeRegistry (f : Registry → Registry) :
    outcome (changeRegistry f) w = (.ok (), { w with registry := f w.registry }) := rfl

theorem keeps_report [IgnoresLog R] (level : Level) (reporter : Reporter) (text : String) :
    Keeps R (report level reporter text) := fun w => IgnoresLog.log w _

/-! ### Asking for a manifest -/

/-- What comes of asking for a manifest: the result and the registry left. -/
inductive Asked (source : ManifestSource) (path : String) (r : Registry) :
    Except Failure Package → Registry → Prop where
  | badPath {e : PathError} (hkey : source.canonical path = .error e) :
      Asked source path r (.error (.badPath e)) r
  | refused {key : String} {failure : Failure} (hkey : source.canonical path = .ok key)
      (hnew : r.find? key = none) (hread : source.read key = .error failure) :
      Asked source path r (.error failure) (r.request key)
  | known {p : Package} (hkey : source.canonical path = .ok p.manifest)
      (hp : r.find? p.manifest = some p) : Asked source path r (.ok p) r
  | registered {key : String} {m : Manifest} (hkey : source.canonical path = .ok key)
      (hnew : r.find? key = none) (hread : source.read key = .ok m) :
      Asked source path r (.ok (.ofManifest key m)) ((r.request key).add (.ofManifest key m))

theorem outcome_register_badPath {e : PathError} (hkey : source.canonical path = .error e) :
    outcome (register source path) w = (.error (.badPath e), w) := by
  simp [register, outcome_bind, hkey]

theorem outcome_register_known (hkey : source.canonical path = .ok key)
    (hfind : w.registry.find? key = some p) : outcome (register source path) w = (.ok p, w) := by
  simp [register, outcome_bind, hkey, hfind]

theorem outcome_register_refused {failure : Failure} (hkey : source.canonical path = .ok key)
    (hfind : w.registry.find? key = none) (hread : source.read key = .error failure) :
    outcome (register source path) w =
      (.error failure, { w with registry := w.registry.request key }) := by
  simp [register, outcome_bind, hkey, hfind, hread, request]

theorem outcome_register_new {m : Manifest} (hkey : source.canonical path = .ok key)
    (hfind : w.registry.find? key = none) (hread : source.read key = .ok m) :
    outcome (register source path) w = (.ok (.ofManifest key m), { w with
      registry := (w.registry.request key).add (.ofManifest key m)
      log := w.log.push ⟨.debug, .registry, s!"Registered {m.name} ({key})"⟩ }) := by
  simp only [register, outcome_bind, outcome_ofPathResult_ok, outcome_get, outcome_changeRegistry,
    outcome_report, outcome_pure, hkey, hfind, hread]
  rfl

theorem asked_register (source : ManifestSource) (path : String) (w : Workspace) :
    Asked source path w.registry (outcome (register source path) w).1
      (after (register source path) w).registry := by
  unfold after
  cases hkey : source.canonical path with
  | error e =>
    rw [outcome_register_badPath hkey]
    exact .badPath hkey
  | ok key =>
    cases hfind : w.registry.find? key with
    | some p =>
      rw [outcome_register_known hkey hfind]
      obtain rfl := find?_manifest hfind
      exact .known hkey hfind
    | none =>
      cases hread : source.read key with
      | error failure =>
        rw [outcome_register_refused hkey hfind hread]
        exact .refused hkey hfind hread
      | ok m =>
        rw [outcome_register_new hkey hfind hread]
        exact .registered hkey hfind hread

/-- What is wrong with a manifest is a result, other failures stay failures. -/
def attempt : Except Failure Package → Except Failure (Except String Package)
  | .ok p => .ok (.ok p)
  | .error (.manifest key fault) => .ok (.error (Failure.manifest key fault).message)
  | .error failure => .error failure

theorem outcome_tryRegister : outcome (tryRegister source path) w =
    (attempt (outcome (register source path) w).1, after (register source path) w) := by
  have hrun : (register source path w : Except Failure Package × Workspace) =
      outcome (register source path) w := rfl
  unfold after
  rcases h : outcome (register source path) w with ⟨e | p, v⟩ <;> rw [h] at hrun <;>
    simp only [outcome, tryRegister, ExceptT.run, StateT.run, bind, ExceptT.bind, ExceptT.mk,
      StateT.bind, tryCatch, tryCatchThe, MonadExceptOf.tryCatch, ExceptT.tryCatch, hrun]
  · cases e <;> rfl
  · rfl

theorem asked_tryRegister (source : ManifestSource) (path : String) (w : Workspace) :
    ∃ result, Asked source path w.registry result (after (tryRegister source path) w).registry ∧
      (outcome (tryRegister source path) w).1 = attempt result := by
  refine ⟨_, ?_, congrArg Prod.fst outcome_tryRegister⟩
  rw [after, outcome_tryRegister]
  exact asked_register source path w

/-- The package returned is registered under the canonical path. -/
theorem Asked.admits {r s : Registry} (h : Asked source path r (.ok p) s) :
    source.canonical path = .ok p.manifest ∧ Admits r p.manifest s ∧
      s.find? p.manifest = some p := by
  cases h with
  | known hkey hp => exact ⟨hkey, .known (by simp [hp]), hp⟩
  | registered hkey hnew => exact ⟨hkey, .registered _ hnew, (find?_add hnew).trans (if_pos rfl)⟩

/-- What comes of asking when a package is returned. -/
theorem asked_of_tryRegister (hok : outcome (tryRegister source path) w = (.ok (.ok p), v)) :
    Asked source path w.registry (.ok p) v.registry := by
  obtain ⟨asked, hasked, hresult⟩ := asked_tryRegister source path w
  have hv : after (tryRegister source path) w = v := congrArg Prod.snd hok
  rw [hok] at hresult
  rw [hv] at hasked
  cases asked with
  | ok q =>
    obtain rfl : p = q := Except.ok.inj (Except.ok.inj hresult)
    exact hasked
  | error failure => cases failure <;> cases hresult

/-- A manifest that can be read has its package registered. -/
theorem admits_tryRegister (hok : outcome (tryRegister source path) w = (.ok (.ok p), v)) :
    source.canonical path = .ok p.manifest ∧ Admits w.registry p.manifest v.registry ∧
      v.registry.find? p.manifest = some p := (asked_of_tryRegister hok).admits

/-- A manifest that cannot be read leaves no more than the question behind. -/
theorem refused_tryRegister {reason : String}
    (hok : outcome (tryRegister source path) w = (.ok (.error reason), v)) :
    ∃ key place fault, source.canonical path = .ok key ∧ w.registry.find? key = none ∧
      source.read key = .error (.manifest place fault) ∧ v.registry = w.registry.request key := by
  obtain ⟨asked, hasked, hresult⟩ := asked_tryRegister source path w
  have hv : after (tryRegister source path) w = v := congrArg Prod.snd hok
  rw [hok] at hresult
  rw [hv] at hasked
  generalize hs : v.registry = s at hasked
  cases hasked with
  | badPath => cases hresult
  | known => cases hresult
  | registered => cases hresult
  | @refused key failure hkey hnew hread =>
    cases failure with
    | manifest place fault => exact ⟨key, place, fault, hkey, hnew, hread, rfl⟩
    | _ => cases hresult

theorem Asked.evolves {result : Except Failure Package} {r s : Registry}
    (h : Asked source path r result s)
    (hroots : ∀ key, source.canonical path = .ok key → key ∈ scope.roots) : Evolves scope r s := by
  cases h with
  | badPath => exact refl_of (Evolves scope) r
  | refused => exact evolves_of_step (.request _)
  | known => exact refl_of (Evolves scope) r
  | registered hkey hnew => exact evolves_of_step (.register (hroots _ hkey) (.registered _ hnew))

theorem keeps_register (hroots : ∀ key, source.canonical path = .ok key → key ∈ scope.roots) :
    Keeps (OnRegistry (Evolves scope)) (register source path) :=
  fun w => (asked_register source path w).evolves hroots

theorem keeps_tryRegister (hroots : ∀ key, source.canonical path = .ok key → key ∈ scope.roots) :
    Keeps (OnRegistry (Evolves scope)) (tryRegister source path) := by
  intro w
  obtain ⟨_, hasked, -⟩ := asked_tryRegister source path w
  exact hasked.evolves hroots

end Workspace

end PascalWorkspace
