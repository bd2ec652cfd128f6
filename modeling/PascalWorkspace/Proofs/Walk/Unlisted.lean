import PascalWorkspace.Proofs.Walk.InStep
import PascalWorkspace.Proofs.Walk.Phases

/-! Walks that come upon no manifest. They leave the same behind, whatever manifests there are
elsewhere, up to what they report. -/
namespace PascalWorkspace

open Operation

namespace Workspace

variable {excused : Failure → Prop} {a b : ManifestSource} {h h' : Host} {extra : Path → Prop}
  {act act' : Package → Action Unit} {v v' : Visit} {visits visits' : List Visit}

/-- Nothing but what has been reported differs. -/
def SameButLog (w v : Workspace) : Prop := ∃ log, v = { w with log }

theorem inStep_report (level level' : Level) (reporter reporter' : Reporter)
    (text text' : String) : InStep excused SameButLog Any (report level reporter text)
      (report level' reporter' text') := by
  refine inStep_modify fun w v hwv => ?_
  obtain ⟨log, rfl⟩ := hwv
  exact ⟨_, rfl⟩

theorem inStep_addNode (node : DefineNode) :
    InStep excused SameButLog Any (addNode node) (addNode node) := by
  refine inStep_modify fun w v hwv => ?_
  obtain ⟨log, rfl⟩ := hwv
  exact ⟨log, rfl⟩

/-- Neither of two lists has a member. -/
def BothEmpty {α β : Type} (xs : List α) (ys : List β) : Prop := xs = [] ∧ ys = []

theorem inStep_listedManifests (reporter : Reporter) (hv : v.Alike extra v')
    (hnone : v'.listed = []) : InStep excused SameButLog BothEmpty (listedManifests reporter v)
      (listedManifests reporter v') := by
  cases hv with
  | @listed directory ms ms' hms =>
    obtain rfl : ms' = [] := hnone
    cases hms
    exact inStep_pure ⟨rfl, rfl⟩
  | refused => exact inStep_bind (inStep_report _ _ _ _ _ _) fun _ _ _ => inStep_pure ⟨rfl, rfl⟩
  | failed directory e =>
    cases e with
    | refused =>
      exact inStep_bind (inStep_report _ _ _ _ _ _) fun _ _ _ => inStep_pure ⟨rfl, rfl⟩
    | _ => exact inStep_throw _

/-- Where nothing is listed the source does not matter, nor what would be done. -/
theorem inStep_forPackages (hvisits : List.Forall₂ (Visit.Alike extra) visits visits')
    (hnone : ∀ v ∈ visits', v.listed = []) : InStep excused SameButLog BothEmpty
      (forPackages a act visits) (forPackages b act' visits') := by
  induction hvisits with
  | nil => exact inStep_pure ⟨rfl, rfl⟩
  | cons hv _ ih =>
    obtain ⟨hhere, hrest⟩ := List.forall_mem_cons.1 hnone
    refine inStep_bind (inStep_listedManifests _ hv hhere) fun _ _ hms => ?_
    obtain ⟨rfl, rfl⟩ := hms
    refine inStep_bind (Q := BothEmpty) (inStep_pure ⟨rfl, rfl⟩) fun _ _ hpackages => ?_
    obtain ⟨rfl, rfl⟩ := hpackages
    refine inStep_bind (ih hrest) fun _ _ hothers => ?_
    obtain ⟨rfl, rfl⟩ := hothers
    exact inStep_pure ⟨rfl, rfl⟩

theorem inStep_publishVisit (hcanonical : ∀ text, h.canonical text = h'.canonical text)
    (hv : v.Alike extra v') (hnone : v'.listed = []) :
    InStep excused SameButLog Any (publishVisit h a v) (publishVisit h' b v') := by
  have hdirectory : v.directory = v'.directory := by cases hv <;> rfl
  unfold publishVisit
  rw [hdirectory, hcanonical]
  refine inStep_bind (inStep_report _ _ _ _ _ _) fun _ _ _ => ?_
  refine inStep_bind (inStep_ofPathResult _) fun directory _ hsame => ?_
  subst hsame
  refine inStep_bind (inStep_addNode _) fun _ _ _ => ?_
  refine inStep_bind (inStep_listedManifests _ hv hnone) fun _ _ hms => ?_
  obtain ⟨rfl, rfl⟩ := hms
  exact inStep_pure trivial

end Workspace

end PascalWorkspace
