import PascalWorkspace.Proofs.Package.Repair
import PascalWorkspace.Proofs.Package.Resolution

/-! What merging and publishing see of a package. Looking for dependencies and repairing them show
nothing of it: a registered package looks as before, and one that turns up looks as its manifest was
read. -/
namespace PascalWorkspace

/-- A package without its place among the others. -/
def Package.shown (p : Package) : Package :=
  { p with dependencies := [], requiredBy := [], isResolved := false }

namespace Registry

variable {r s t : Registry} {key other : String} {p : Package} {f : Package → Package}
  {source : ManifestSource}

def shown? (r : Registry) (key : String) : Option Package := (r.find? key).map Package.shown

/-- What is registered shows as before, and what turns up shows as it was read. -/
def OnlyGrows (source : ManifestSource) (r s : Registry) : Prop :=
  ∀ key, s.shown? key = r.shown? key ∨
    r.find? key = none ∧ ∃ m, source.read key = .ok m ∧
      s.shown? key = some (Package.ofManifest key m).shown

theorem shown?_eq_none : r.shown? key = none ↔ r.find? key = none := by simp [shown?]

theorem shown?_of_find? (h : r.find? key = some p) : r.shown? key = some p.shown := by
  simp [shown?, h]

instance : IsPreorder Registry (OnlyGrows source) where
  refl _ _ := .inl rfl
  trans r s t hrs hst key := by
    obtain hlater | ⟨hnone, m, hread, hnew⟩ := hst key
    · rw [hlater]
      exact hrs key
    · obtain hsame | ⟨-, n, -, hs⟩ := hrs key
      · refine .inr ⟨?_, m, hread, hnew⟩
        rw [← shown?_eq_none, ← hsame, shown?_eq_none, hnone]
      · simp [shown?_eq_none.2 hnone] at hs

theorem onlyGrows_of_eq (h : ∀ key, s.shown? key = r.shown? key) : OnlyGrows source r s :=
  fun key => .inl (h key)

theorem shown?_update (hf : ∀ p, (f p).shown = p.shown) :
    (r.update key f).shown? other = r.shown? other := by
  have hmanifest (p : Package) : (f p).manifest = p.manifest :=
    calc
      (f p).manifest = (f p).shown.manifest := rfl
      _ = p.manifest := by rw [hf, Package.shown]
  exact map_find?_update hmanifest hf

theorem onlyGrows_update (hf : ∀ p, (f p).shown = p.shown) : OnlyGrows source r (r.update key f) :=
  onlyGrows_of_eq fun _ => shown?_update hf

theorem onlyGrows_link (ref : DependencyRef) (target : String) :
    OnlyGrows source r (r.link ref target) := by
  have hset : OnlyGrows source r (r.setTarget ref target) := onlyGrows_update fun _ => rfl
  have hadd (s : Registry) : OnlyGrows source s (s.addDependent target ref.manifest) :=
    onlyGrows_update fun _ => rfl
  rw [link_eq]
  exact trans_of (OnlyGrows source) hset (hadd _)

theorem onlyGrows_register {m : Manifest} (hnew : r.find? key = none)
    (hread : source.read key = .ok m) :
    OnlyGrows source r ((r.request key).add (.ofManifest key m)) := by
  intro other
  have hadd : ((r.request key).add (.ofManifest key m)).find? other =
      if other = key then some (.ofManifest key m) else r.find? other := find?_add hnew
  by_cases hother : other = key
  · subst hother
    rw [if_pos rfl] at hadd
    exact .inr ⟨hnew, m, hread, shown?_of_find? hadd⟩
  · rw [if_neg hother] at hadd
    exact .inl (by rw [shown?, hadd, shown?])

end Registry

namespace Workspace

open Operation Registry

variable {source : ManifestSource} {path : String} {w v : Workspace}

/-- Nothing is published, and the packages show as before or as they are read. -/
structure Quiet (source : ManifestSource) (w v : Workspace) : Prop where
  defines : v.defines = w.defines
  registry : OnlyGrows source w.registry v.registry

instance : IsPreorder Workspace (Quiet source) where
  refl w := ⟨rfl, refl_of (OnlyGrows source) w.registry⟩
  trans _ _ _ hwv hvu :=
    ⟨hvu.defines.trans hwv.defines, trans_of (OnlyGrows source) hwv.registry hvu.registry⟩

instance : IgnoresLog (Quiet source) := ⟨fun w _ => ⟨rfl, refl_of (OnlyGrows source) w.registry⟩⟩

theorem quiet_changeRegistry {f : Registry → Registry}
    (hf : ∀ r, OnlyGrows source r (f r)) : Keeps (Quiet source) (changeRegistry f) :=
  fun w => ⟨rfl, hf w.registry⟩

theorem quiet_register (source : ManifestSource) (path : String) :
    Keeps (Quiet source) (register source path) := by
  intro w
  unfold after
  cases hkey : source.canonical path with
  | error e =>
    rw [outcome_register_badPath hkey]
    exact refl_of (Quiet source) w
  | ok key =>
    cases hfind : w.registry.find? key with
    | some p =>
      rw [outcome_register_known hkey hfind]
      exact refl_of (Quiet source) w
    | none =>
      cases hread : source.read key with
      | error failure =>
        rw [outcome_register_refused hkey hfind hread]
        exact ⟨rfl, onlyGrows_of_eq fun _ => rfl⟩
      | ok m =>
        rw [outcome_register_new hkey hfind hread]
        exact ⟨rfl, onlyGrows_register hfind hread⟩

theorem quiet_tryRegister (source : ManifestSource) (path : String) :
    Keeps (Quiet source) (tryRegister source path) := by
  intro w
  rw [after, outcome_tryRegister]
  exact quiet_register source path w

theorem quiet_linkDependency (ref : DependencyRef) :
    Keeps (Quiet source) (linkDependency source ref) := by
  refine keeps_bind keeps_get fun w => ?_
  dsimp only
  split
  · exact keeps_pure _
  · split
    · exact keeps_pure _
    · split
      · exact keeps_bind (keeps_report _ _ _) fun _ => keeps_pure _
      · refine keeps_bind (quiet_tryRegister source _) fun result => ?_
        cases result with
        | error reason => exact keeps_bind (keeps_report _ _ _) fun _ => keeps_pure _
        | ok target =>
          refine keeps_bind (keeps_report _ _ _) fun _ => ?_
          refine keeps_bind (quiet_changeRegistry fun _ => ?_) fun _ => keeps_pure _
          exact onlyGrows_link ref target.manifest

theorem quiet_markResolved (key : String) :
    Keeps (Quiet source) (changeRegistry (·.markResolved key)) :=
  quiet_changeRegistry fun _ => onlyGrows_update fun _ => rfl

theorem quiet_resolve (key : String) : Keeps (Quiet source) (resolve source key) :=
  keeps_resolve_of_link quiet_linkDependency quiet_markResolved key

theorem quiet_repair (key : String) : Keeps (Quiet source) (repair key) :=
  keeps_repair_of_borrow (fun _ _ _ _ _ => ⟨rfl, onlyGrows_update fun _ => rfl⟩) key

end Workspace

end PascalWorkspace
