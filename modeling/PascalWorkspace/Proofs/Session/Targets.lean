import Mathlib
import PascalWorkspace.Proofs.Package.NameIndex
import PascalWorkspace.Proofs.Session.Calls

/-! What a session finds for a dependency is final, and it is always found for some package of those
that need it. -/
namespace PascalWorkspace

namespace Session

open Operation Registry

variable {s : Session} {calls : List Call}

/-- The session after a call, with something else done wherever a package would be repaired. -/
def performWith (act : String → Action Unit) (s : Session) : Call → Session
  | .repair key => after (onWorkspace (act key)) s
  | .repairBelow h source ignored directory =>
    after (onWorkspace (Workspace.eachBelow act h source ignored directory)) s
  | .scan h source root => after (scanWith act h source root) s
  | .serve surroundings params => after (Handshake.serveWith (scanWith act) surroundings params) s
  | c => s.perform c

theorem performWith_repair (s : Session) (c : Call) :
    s.performWith Workspace.repair c = s.perform c := by
  cases c <;> rfl

section Evolves

variable {scope : Scope} {act : String → Action Unit}
  (hact : ∀ key, Keeps (Workspace.OnRegistry (Registry.Evolves scope)) (act key))
  (hroots : ∀ key, key ∈ scope.roots) (hscope : scope.finishes)

include hroots hscope

theorem evolves_publishBelow {h : Host} {source : ManifestSource} {ignored : List String}
    {directory : Path} :
    Keeps (Workspace.OnRegistry (Registry.Evolves scope))
      (Workspace.publishBelow h source ignored directory) :=
  Workspace.keeps_publishBelow
    (fun _ _ => Registry.evolves_of_step (Registry.step_mergePaths hscope))
    (fun _ tree _ => Registry.evolves_of_step (Registry.step_publish hscope tree))
    fun _ _ _ _ => Workspace.keeps_tryRegister fun key _ => hroots key

include hact

theorem evolves_scanWith (h : Host) (source : ManifestSource) (root : Path) :
    Keeps (OnWorkspace (Workspace.OnRegistry (Registry.Evolves scope)))
      (scanWith act h source root) :=
  keeps_scanWith (fun _ => Workspace.keeps_resolveBelow fun key _ => hroots key)
    (fun _ => Workspace.keeps_eachBelow hact fun key _ => hroots key)
    fun _ => evolves_publishBelow hroots hscope

/-- What a call does to the registry it does step by step, if that is so for what is done in place
of repairs. -/
theorem evolves_performWith (s : Session) (c : Call) :
    OnWorkspace (Workspace.OnRegistry (Registry.Evolves scope)) s (s.performWith act c) := by
  have onRegistry {α : Type} {act : Action α}
      (h : Keeps (Workspace.OnRegistry (Registry.Evolves scope)) act) :=
    keeps_onWorkspace h s
  have hbelow {source : ManifestSource} {visits : List Visit} :
      listedKeys source visits ⊆ scope.roots := fun key _ => hroots key
  cases c with
  | register source path => exact onRegistry (Workspace.keeps_register fun key _ => hroots key)
  | resolve source key => exact onRegistry (Workspace.keeps_resolve key)
  | repair key => exact onRegistry (hact key)
  | mergePaths key => exact onRegistry fun _ => evolves_of_step (step_mergePaths hscope)
  | publish key => exact onRegistry fun _ => evolves_of_step (step_publish hscope _)
  | resolveBelow h source ignored directory =>
    exact onRegistry (Workspace.keeps_resolveBelow hbelow)
  | repairBelow h source ignored directory =>
    exact onRegistry (Workspace.keeps_eachBelow hact hbelow)
  | publishBelow h source ignored directory =>
    exact onRegistry (evolves_publishBelow hroots hscope)
  | scan h source root => exact evolves_scanWith hact hroots hscope h source root s
  | serve surroundings params =>
    exact Handshake.keeps_serveWith (evolves_scanWith hact hroots hscope) params s

end Evolves

theorem evolves_perform (s : Session) (c : Call) : Evolves s (s.perform c) := by
  have hroots (key : String) : key ∈ Scope.unlimited.roots := trivial
  rw [← performWith_repair]
  exact evolves_performWith (Workspace.keeps_repair trivial) hroots trivial s c

theorem evolves_performAll (s : Session) (calls : List Call) : Evolves s (s.performAll calls) := by
  induction calls generalizing s with
  | nil => exact refl_of Evolves s
  | cons c calls ih => exact trans_of Evolves (evolves_perform s c) (ih (s.perform c))

/-- The registry of a session grows from nothing step by step. -/
theorem steps_performAll (hs : s.workspace.registry = {}) (calls : List Call) :
    Steps .unlimited {} (s.performAll calls).workspace.registry := by
  have h : Registry.Evolves .unlimited s.workspace.registry _ := evolves_performAll s calls
  rw [hs] at h
  exact h sound_empty

theorem sound_performAll (hs : s.workspace.registry = {}) (calls : List Call) :
    (s.performAll calls).workspace.registry.Sound :=
  sound_steps (steps_performAll hs calls) sound_empty

theorem catalogued_performAll (hs : s.workspace.registry = {}) (calls : List Call) :
    (s.performAll calls).workspace.registry.Catalogued :=
  catalogued_steps (steps_performAll hs calls) catalogued_empty

/-- Once a dependency has a target, no later call changes it. -/
theorem dependency?_final (s : Session) (earlier later : List Call) (ref : DependencyRef)
    (d : Dependency) (target : String) (hs : s.workspace.registry = {})
    (hd : (s.performAll earlier).workspace.registry.dependency? ref = some d)
    (htarget : d.target = some target) :
    (s.performAll (earlier ++ later)).workspace.registry.dependency? ref = some d := by
  have hsteps := evolves_performAll (s.performAll earlier) later (sound_performAll hs earlier)
  rw [performAll, List.foldl_append]
  exact dependency?_steps hsteps hd htarget

/-- Of three manifests the first needs the other two, and the second needs the third under a name by
which it cannot be found. -/
def borrowingSource : ManifestSource :=
  .ofTable { tree := .empty, cwd := [], environment := [], homes := [] } [
    ("/a", ⟨"a", "/", {}, [⟨"b", "/b", false⟩, ⟨"c", "/c", false⟩]⟩),
    ("/b", ⟨"b", "/", {}, [⟨"C", "", false⟩]⟩),
    ("/c", ⟨"third", "/", {}, []⟩)]

def borrowingCalls : List Call :=
  [.register borrowingSource "/a", .resolve borrowingSource "/a", .repair "/b"]

theorem borrowed_target : (({} : Session).performAll borrowingCalls).workspace.registry.dependency?
    ⟨"/b", 0⟩ = some ⟨⟨"C", "", false⟩, some "/c"⟩ := by
  -- Runs are evaluated by the equations that the whole library has for texts and states.
  cbv

/-- The second manifest keeps what it has borrowed when its dependencies are looked for again. -/
theorem dependency?_final_borrowed :
    ({} : Session).workspace.registry = {} ∧
      (({} : Session).performAll (borrowingCalls ++ [.resolve borrowingSource "/b"])
        ).workspace.registry.dependency? ⟨"/b", 0⟩ = some ⟨⟨"C", "", false⟩, some "/c"⟩ :=
  ⟨rfl, dependency?_final {} borrowingCalls [.resolve borrowingSource "/b"] ⟨"/b", 0⟩ _ "/c" rfl
    borrowed_target rfl⟩

/-- Every target, a borrowed one too, was found for a dependency of that name of the package itself
or of one that requires it. -/
theorem target_traced (s : Session) (calls : List Call) (ref : DependencyRef) (d : Dependency)
    (target : String) (hs : s.workspace.registry = {})
    (hd : (s.performAll calls).workspace.registry.dependency? ref = some d)
    (htarget : d.target = some target) :
    ∃ q index e, (s.performAll calls).workspace.registry.Dependent ref.manifest q ∧
      (s.performAll calls).workspace.registry.dependency? ⟨q, index⟩ = some e ∧
      sameName e.name d.name = true ∧ e.target = some target ∧
      (s.performAll calls).workspace.registry.RequiredBy target q := by
  have hfounded := founded_steps (steps_performAll hs calls) founded_empty
  obtain ⟨q, hq, ⟨index, e, he, hname, hetarget⟩, hrequired⟩ := hfounded ref d target hd htarget
  exact ⟨q, index, e, hq, he, hname, hetarget, hrequired⟩

/-- What the second manifest has borrowed was found for the first. -/
theorem target_traced_borrowed :
    ({} : Session).workspace.registry = {} ∧
      (({} : Session).performAll borrowingCalls).workspace.registry.dependency? ⟨"/b", 0⟩ =
        some ⟨⟨"C", "", false⟩, some "/c"⟩ ∧
      ∃ q, (({} : Session).performAll borrowingCalls).workspace.registry.RequiredBy "/c" q := by
  have htraced := target_traced {} borrowingCalls ⟨"/b", 0⟩ _ "/c" rfl borrowed_target rfl
  obtain ⟨q, -, -, -, -, -, -, hq⟩ := htraced
  exact ⟨rfl, borrowed_target, q, hq⟩

end Session

end PascalWorkspace
