import PascalWorkspace.Proofs.Session.Calls
import PascalWorkspace.Proofs.Walk.InStep

/-! Sessions that differ in their workspaces only, where these correspond, stay so through the same
calls. -/
namespace PascalWorkspace

namespace Session

open Operation Workspace

variable {L : Likeness} {excused : Failure → Prop} {a b : ManifestSource} {h h' : Host}
  {α β : Type} {Q : α → β → Prop} {s t : Session}

/-- Nothing but the workspaces differs, and these correspond. -/
def Alike (L : Likeness) (s t : Session) : Prop :=
  ∃ workspace, t = { s with workspace } ∧ s.workspace.Alike L workspace

theorem Alike.workspace (hst : s.Alike L t) : s.workspace.Alike L t.workspace := by
  obtain ⟨w, rfl, hw⟩ := hst
  exact hw

theorem Alike.settings (hst : s.Alike L t) : t.settings = s.settings := by
  obtain ⟨w, rfl, -⟩ := hst
  rfl

theorem Alike.manifestsFound (hst : s.Alike L t) : t.manifestsFound = s.manifestsFound := by
  obtain ⟨w, rfl, -⟩ := hst
  rfl

/-- Nothing but the workspaces differs, and these stand in a relation. -/
def Beside (R : Workspace → Workspace → Prop) (s t : Session) : Prop :=
  ∃ workspace, t = { s with workspace } ∧ R s.workspace workspace

section Beside

variable {R : Workspace → Workspace → Prop}

theorem Beside.settings (hst : Beside R s t) : t.settings = s.settings := by
  obtain ⟨w, rfl, -⟩ := hst
  rfl

theorem Beside.toolchain (hst : Beside R s t) : t.toolchain = s.toolchain := by
  obtain ⟨w, rfl, -⟩ := hst
  rfl

theorem beside_onWorkspace {act : Action α} {act' : Action β}
    (hact : InStep excused R Q act act') :
    InStep excused (Beside R) Q (onWorkspace act) (onWorkspace act') := by
  intro s t hst
  obtain ⟨w, rfl, hw⟩ := hst
  have hrun := hact _ _ hw
  rw [outcome_onWorkspace, outcome_onWorkspace]
  generalize outcome act s.workspace = x at hrun ⊢
  generalize outcome act' w = y at hrun ⊢
  cases hrun with
  | ok hstate hresult => exact .ok ⟨_, rfl, hstate⟩ hresult
  | fail hstate => exact .fail ⟨_, rfl, hstate⟩
  | excused he => exact .excused he

/-- A change of the session apart from its workspace, the same on both sides. -/
theorem beside_modify {f : Session → Session}
    (hf : ∀ (s : Session) workspace, f { s with workspace } = { f s with workspace })
    (hkept : ∀ s, (f s).workspace = s.workspace) :
    InStep excused (Beside R) Any (modify f) (modify f) := by
  refine inStep_modify fun s t hst => ?_
  obtain ⟨w, rfl, hw⟩ := hst
  exact ⟨w, hf s w, by rwa [hkept]⟩

end Beside

theorem inStep_onWorkspace {act : Action α} {act' : Action β}
    (hact : Matches L excused Q act act') :
    InStep excused (Alike L) Q (onWorkspace act) (onWorkspace act') :=
  beside_onWorkspace hact

theorem inStep_modify_rest {f : Session → Session}
    (hf : ∀ (s : Session) workspace, f { s with workspace } = { f s with workspace })
    (hkept : ∀ s, (f s).workspace = s.workspace) :
    InStep excused (Alike L) Any (modify f) (modify f) :=
  beside_modify (R := Workspace.Alike L) hf hkept

/-- Two scans stay in step if their walks lead through the same directories. -/
theorem agree_scan {root : Path} (hab : a.Alike L excused b)
    (hh : h.Alike (b.PassesOver L) s.settings.ignoredNames root h') (hst : s.Alike L t) :
    Agree excused (Alike L) Any (outcome (scan h a root) s) (outcome (scan h' b root) t) := by
  rw [scan, scan, outcome_bind_ok _ (outcome_get _), outcome_bind_ok _ (outcome_get _),
    hst.settings]
  refine inStep_bind (inStep_onWorkspace (matches_resolveBelow hab hh)) (fun found _ hsame => ?_)
    s t hst
  subst hsame
  refine inStep_bind (inStep_modify_rest (fun _ _ => rfl) fun _ => rfl) fun _ _ _ => ?_
  refine inStep_bind (inStep_onWorkspace (matches_repairBelow hab hh)) fun _ _ _ => ?_
  refine inStep_bind (inStep_onWorkspace (matches_publishBelow hab hh)) fun _ _ _ => ?_
  exact inStep_get_bind fun s t hst => inStep_onWorkspace (matches_report _ _ _ _ _ _) s t hst

end Session

end PascalWorkspace
