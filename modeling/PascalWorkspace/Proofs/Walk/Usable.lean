import PascalWorkspace.Proofs.Triple
import PascalWorkspace.Proofs.Walk.Phases

/-! Walks that end well: no visit of theirs meets an error that is not reported as a directory left
out, and every manifest listed has a canonical path. Where that is so, a walk ends well if asking
for manifests and dealing with packages do. -/
namespace PascalWorkspace

/-- A directory can be listed, or the operating system refuses it. -/
def Visit.Passable (v : Visit) : Prop :=
  ∀ e, v.manifests = .error e → ∃ reason path, e = .refused reason path

namespace Workspace

open Operation Registry

variable {source : ManifestSource} {act : Package → Action Unit} {reporter : Reporter}
  {manifests : List Path} {visits : List Visit} {visit : Visit} {packages : List Package}
  {w v : Workspace}

theorem passable_of_listedManifests
    (hok : (outcome (listedManifests reporter visit) w).1 = .ok manifests) : visit.Passable := by
  intro e he
  unfold listedManifests at hok
  rw [he] at hok
  cases e with
  | refused reason path => exact ⟨reason, path, rfl⟩
  | _ => cases hok

theorem canonical_of_tryRegister {path : String} {result : Except String Package}
    (hok : outcome (tryRegister source path) w = (.ok result, v)) :
    ∃ key, source.canonical path = .ok key := by
  cases result with
  | ok p => exact ⟨_, (admits_tryRegister hok).1⟩
  | error reason =>
    obtain ⟨key, -, -, hkey, -⟩ := refused_tryRegister hok
    exact ⟨key, hkey⟩

theorem canonical_of_forManifests
    (hok : outcome (forManifests source act reporter manifests) w = (.ok packages, v)) :
    ∀ m ∈ manifests, ∃ key, source.canonical m.toString = .ok key := by
  induction manifests generalizing w v packages with
  | nil => exact fun _ hm => (nomatch hm)
  | cons m rest ih =>
    obtain ⟨result, u, hask, hnext⟩ := outcome_bind_eq_ok hok
    refine List.forall_mem_cons.2 ⟨canonical_of_tryRegister hask, ?_⟩
    cases result with
    | error reason =>
      obtain ⟨_, x, -, hnext⟩ := outcome_bind_eq_ok hnext
      exact ih hnext
    | ok p =>
      obtain ⟨_, x, -, hnext⟩ := outcome_bind_eq_ok hnext
      obtain ⟨others, y, hothers, -⟩ := outcome_bind_eq_ok hnext
      exact ih hothers

/-- The visits of a walk that ends well can be passed, and what they list can be asked for. -/
theorem usable_of_forPackages
    (hok : outcome (forPackages source act visits) w = (.ok packages, v)) :
    ∀ visit ∈ visits, visit.Passable ∧
      ∀ m ∈ visit.listed, ∃ key, source.canonical m.toString = .ok key := by
  induction visits generalizing w v packages with
  | nil => exact fun _ hvisit => (nomatch hvisit)
  | cons visit rest ih =>
    obtain ⟨manifests, x, hlist, hnext⟩ := outcome_bind_eq_ok hok
    obtain ⟨found, y, hfound, hnext⟩ := outcome_bind_eq_ok hnext
    obtain ⟨others, z, hothers, -⟩ := outcome_bind_eq_ok hnext
    have hfirst := congrArg Prod.fst hlist
    obtain rfl : manifests = visit.listed := outcome_listedManifests hfirst
    exact List.forall_mem_cons.2
      ⟨⟨passable_of_listedManifests hfirst, canonical_of_forManifests hfound⟩, ih hothers⟩

/-! ### Walks that end well -/

section Triple

variable {expected : Failure → Prop} {I : Workspace → Prop} {Q : Package → Prop}
  (hlog : ∀ w (log : Log), I w → I { w with log })
include hlog

theorem triple_report (level : Level) (text : String) :
    Triple expected I (report level reporter text) fun _ => I :=
  triple_modify fun w hw => hlog w _ hw

theorem triple_listedManifests (hvisit : visit.Passable) :
    Triple expected I (listedManifests reporter visit) fun manifests w =>
      I w ∧ manifests = visit.listed := by
  cases hv : visit.manifests with
  | ok manifests =>
    rw [listedManifests, Visit.listed, hv]
    exact triple_pure fun w hw => ⟨hw, rfl⟩
  | error e =>
    obtain ⟨reason, path, rfl⟩ := hvisit e hv
    rw [listedManifests, Visit.listed, hv]
    exact triple_bind (triple_report hlog _ _) fun _ => triple_pure fun w hw => ⟨hw, rfl⟩

/-- If every manifest can be asked for, and every package had by it dealt with, all can. -/
theorem triple_forManifests
    (htry : ∀ m ∈ manifests, Triple expected I (tryRegister source m.toString) fun result w =>
      I w ∧ ∀ p, result = .ok p → Q p)
    (hact : ∀ p, Q p → Triple expected I (act p) fun _ => I) :
    Triple expected I (forManifests source act reporter manifests) fun packages w =>
      I w ∧ ∀ p ∈ packages, Q p := by
  induction manifests with
  | nil => exact triple_pure fun w hw => ⟨hw, fun _ hp => nomatch hp⟩
  | cons m rest ih =>
    obtain ⟨hm, hrest⟩ := List.forall_mem_cons.1 htry
    refine triple_bind hm fun result => triple_of_fact fun hresult => ?_
    cases result with
    | error reason => exact triple_bind (triple_report hlog _ _) fun _ => ih hrest
    | ok p =>
      refine triple_bind (hact p (hresult p rfl)) fun _ => ?_
      refine triple_bind (ih hrest) fun others => triple_of_fact fun hothers => ?_
      exact triple_pure fun w hw => ⟨hw, List.forall_mem_cons.2 ⟨hresult p rfl, hothers⟩⟩

theorem triple_forPackages (hvisits : ∀ visit ∈ visits, visit.Passable)
    (htry : ∀ visit ∈ visits, ∀ m ∈ visit.listed,
      Triple expected I (tryRegister source m.toString) fun result w =>
        I w ∧ ∀ p, result = .ok p → Q p)
    (hact : ∀ p, Q p → Triple expected I (act p) fun _ => I) :
    Triple expected I (forPackages source act visits) fun _ => I := by
  induction visits with
  | nil => exact triple_pure fun w hw => hw
  | cons visit rest ih =>
    obtain ⟨hvisit, hlater⟩ := List.forall_mem_cons.1 hvisits
    obtain ⟨hfirst, hrest⟩ := List.forall_mem_cons.1 htry
    refine triple_bind (triple_listedManifests hlog hvisit) fun manifests =>
      triple_of_fact fun hmanifests => ?_
    subst hmanifests
    refine triple_bind (triple_forManifests hlog hfirst hact) fun packages =>
      triple_of_fact fun _ => ?_
    exact triple_bind (ih hlater hrest) fun _ => triple_pure fun w hw => hw

end Triple

/-- A manifest has a key, under which it can be read or is reported as one that cannot. -/
def Answerable (source : ManifestSource) (path : String) : Prop :=
  ∃ key, source.canonical path = .ok key ∧ ((∃ manifest, source.read key = .ok manifest) ∨
    ∃ place fault, source.read key = .error (.manifest place fault))

/-- Such a manifest can be asked for at any time. -/
theorem failsAs_tryRegister_of_answerable {path : String} (hpath : Answerable source path) :
    FailsAs Never (tryRegister source path) := by
  obtain ⟨key, hkey, hread⟩ := hpath
  intro w _
  refine .inl ?_
  rw [outcome_tryRegister]
  cases hfind : w.registry.find? key with
  | some p =>
    rw [outcome_register_known hkey hfind]
    exact ⟨_, _, rfl, trivial⟩
  | none =>
    obtain ⟨manifest, hread⟩ | ⟨place, fault, hread⟩ := hread
    · rw [outcome_register_new hkey hfind hread]
      exact ⟨_, _, rfl, trivial⟩
    · rw [outcome_register_refused hkey hfind hread]
      exact ⟨_, _, rfl, trivial⟩

end Workspace

end PascalWorkspace
