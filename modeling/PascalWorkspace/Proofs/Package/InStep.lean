import PascalWorkspace.Proofs.Agreement
import PascalWorkspace.Proofs.Package.Likeness
import PascalWorkspace.Proofs.Workspace

/-! Workspaces that correspond stay so when the same is done to both, and manifests are read from
sources that correspond. What is reported does not matter. -/
namespace PascalWorkspace

open Operation

/-- What two sources give for a manifest. What is wrong with one that can be read on neither side
need not be the same. -/
inductive ReadAlike (L : Likeness) (key : String) :
    Except Failure Manifest → Except Failure Manifest → Prop where
  | ok {m n : Manifest} (hkey : L.keys key) (h : m.Alike L n) : ReadAlike L key (.ok m) (.ok n)
  | same (failure : Failure) : ReadAlike L key (.error failure) (.error failure)
  | faulty (place place' : String) (fault fault' : ManifestFault) :
    ReadAlike L key (.error (.manifest place fault)) (.error (.manifest place' fault'))

/-- Two sources that tell the same about every manifest. The second may hold more of them if it is
excused that the first has too many. -/
structure ManifestSource.Alike (L : Likeness) (excused : Failure → Prop) (a b : ManifestSource) :
    Prop where
  canonical (path : String) : a.canonical path = b.canonical path
  read (key : String) : ReadAlike L key (a.read key) (b.read key)
  capacity : a.capacity = b.capacity ∨ a.capacity ≤ b.capacity ∧ excused .exhausted

theorem Registry.Alike.request {L : Likeness} {r s : Registry} (h : r.Alike L s) (key : String) :
    (r.request key).Alike L (s.request key) := ⟨h.packages, h.byName⟩

/-- Workspaces with corresponding packages and defines. -/
structure Workspace.Alike (L : Likeness) (w v : Workspace) : Prop where
  registry : w.registry.Alike L v.registry
  defines : w.defines.Alike L v.defines

/-- What comes of asking for a manifest on two sides. -/
inductive Got (L : Likeness) : Except String Package → Except String Package → Prop where
  | package {p q : Package} (h : p.Alike L q) : Got L (.ok p) (.ok q)
  | fault (reason reason' : String) : Got L (.error reason) (.error reason')

namespace Workspace

variable {L : Likeness} {excused : Failure → Prop} {a b : ManifestSource} {w v : Workspace}

/-- Two actions on corresponding workspaces that stay in step. -/
abbrev Matches (L : Likeness) (excused : Failure → Prop) {α β : Type} (Q : α → β → Prop)
    (act : Action α) (act' : Action β) : Prop := InStep excused (Alike L) Q act act'

theorem matches_report (level level' : Level) (reporter reporter' : Reporter)
    (text text' : String) :
    Matches L excused Any (report level reporter text) (report level' reporter' text') :=
  inStep_modify fun _ _ h => ⟨h.registry, h.defines⟩

theorem matches_changeRegistry {f g : Registry → Registry}
    (h : ∀ r s, r.Alike L s → (f r).Alike L (g s)) :
    Matches L excused Any (changeRegistry f) (changeRegistry g) :=
  inStep_modify fun _ _ hwv => ⟨h _ _ hwv.registry, hwv.defines⟩

theorem matches_addNode {m n : DefineNode} (h : m.Alike L n) :
    Matches L excused Any (addNode m) (addNode n) :=
  inStep_modify fun _ _ hwv => ⟨hwv.registry, hwv.defines.add h⟩

/-! ### Asking for a manifest -/

/-- How two requests for the same manifest end. -/
inductive Answered (L : Likeness) :
    Except Failure Package × Workspace → Except Failure Package × Workspace → Prop where
  | package {p q : Package} {w v : Workspace} (hwv : w.Alike L v) (hpq : p.Alike L q) :
    Answered L (.ok p, w) (.ok q, v)
  | same (failure : Failure) {w v : Workspace} (hwv : w.Alike L v) :
    Answered L (.error failure, w) (.error failure, v)
  | faulty (place place' : String) (fault fault' : ManifestFault) {w v : Workspace}
    (hwv : w.Alike L v) :
    Answered L (.error (.manifest place fault), w) (.error (.manifest place' fault'), v)

theorem Answered.state {x y : Except Failure Package × Workspace} (h : Answered L x y) :
    x.2.Alike L y.2 := by
  cases h <;> assumption

theorem answered_register (hab : a.Alike L excused b) (path : String) (h : w.Alike L v) :
    Answered L (outcome (register a path) w) (outcome (register b path) v) := by
  cases hkey : a.canonical path with
  | error e =>
    rw [outcome_register_badPath hkey,
      outcome_register_badPath ((hab.canonical path).symm.trans hkey)]
    exact .same _ h
  | ok key =>
    have hkey' := (hab.canonical path).symm.trans hkey
    cases hp : w.registry.find? key with
    | some p =>
      obtain ⟨q, hq, hpq⟩ := h.registry.exists_find? hp
      rw [outcome_register_known hkey hp, outcome_register_known hkey' hq]
      exact .package h hpq
    | none =>
      have hq := h.registry.find?_eq_none hp
      have hread := hab.read key
      cases ha : a.read key with
      | error failure =>
        cases hb : b.read key with
        | error failure' =>
          rw [outcome_register_refused hkey hp ha, outcome_register_refused hkey' hq hb]
          rw [ha, hb] at hread
          cases hread with
          | same => exact .same _ ⟨h.registry.request key, h.defines⟩
          | faulty => exact .faulty _ _ _ _ ⟨h.registry.request key, h.defines⟩
        | ok n =>
          rw [ha, hb] at hread
          cases hread
      | ok m =>
        cases hb : b.read key with
        | error failure =>
          rw [ha, hb] at hread
          cases hread
        | ok n =>
          rw [ha, hb] at hread
          cases hread with
          | ok hlisted hmn =>
            have hpq := Package.alike_ofManifest hlisted hmn
            rw [outcome_register_new hkey hp ha, outcome_register_new hkey' hq hb]
            exact .package ⟨(h.registry.request key).add hpq, h.defines⟩ hpq

theorem matches_tryRegister (hab : a.Alike L excused b) (path : String) :
    Matches L excused (Got L) (tryRegister a path) (tryRegister b path) := by
  intro w v h
  have hanswered := answered_register hab path h
  rw [outcome_tryRegister, outcome_tryRegister, after, after]
  generalize outcome (register a path) w = x at hanswered ⊢
  generalize outcome (register b path) v = y at hanswered ⊢
  cases hanswered with
  | package hwv hpq => exact .ok hwv (.package hpq)
  | faulty _ _ _ _ hwv => exact .ok hwv (.fault _ _)
  | same failure hwv =>
    cases failure with
    | manifest => exact .ok hwv (.fault _ _)
    | _ => exact .fail hwv

/-! ### Resolving -/

theorem matches_linkDependency (hab : a.Alike L excused b) (ref : DependencyRef) :
    Matches L excused (Option.Rel (Package.Alike L)) (linkDependency a ref)
      (linkDependency b ref) := by
  refine inStep_get_bind fun w v h => ?_
  have hregistry := h.registry
  have hfind := hregistry.find? ref.manifest
  dsimp only
  generalize w.registry.find? ref.manifest = found at hfind ⊢
  generalize v.registry.find? ref.manifest = found' at hfind ⊢
  cases hfind with
  | none => exact .ok h Option.Rel.none
  | @some p q hpq =>
    have hdep := rel_getElem? hpq.dependencies ref.index
    dsimp only
    generalize p.dependencies[ref.index]? = d at hdep ⊢
    generalize q.dependencies[ref.index]? = e at hdep ⊢
    cases hdep with
    | none => exact .ok h Option.Rel.none
    | @some d e hde =>
      dsimp only
      rw [← hregistry.choosePath hde]
      split
      · exact inStep_bind (matches_report _ _ _ _ _ _) (fun _ _ _ => inStep_pure .none) w v h
      · refine inStep_bind (matches_tryRegister hab _) (fun result result' hresult => ?_) w v h
        cases hresult with
        | fault =>
          exact inStep_bind (matches_report _ _ _ _ _ _) fun _ _ _ => inStep_pure .none
        | package htarget =>
          refine inStep_bind (matches_report _ _ _ _ _ _) fun _ _ _ => ?_
          refine inStep_bind (matches_changeRegistry fun r s hrs => ?_) fun _ _ _ =>
            inStep_pure (.some htarget)
          rw [← htarget.manifest]
          exact hrs.link ref _

/-- The second run may have more fuel if it is excused that the first has none left. -/
theorem matches_resolveAll (hab : a.Alike L excused b) {fuel fuel' : Nat}
    (hfuel : fuel = fuel' ∨ fuel ≤ fuel' ∧ excused .exhausted) (refs : List DependencyRef) :
    Matches L excused Any (resolveAll a fuel refs) (resolveAll b fuel' refs) := by
  induction fuel, refs using resolveAll.induct generalizing fuel' with
  | case1 fuel =>
    rw [resolveAll, resolveAll]
    exact inStep_pure trivial
  | case2 fuel ref rest ih ihTarget =>
    rw [resolveAll, resolveAll]
    refine inStep_bind (matches_linkDependency hab ref) fun found found' hfound => ?_
    cases hfound with
    | none => exact ih hfuel
    | @some p q hpq =>
      dsimp only
      rw [← hpq.isResolved]
      split
      · exact ih hfuel
      · rw [← hpq.manifest, ← hpq.dependencyRefs]
        refine inStep_bind (matches_changeRegistry fun r s hrs => hrs.markResolved _)
          fun _ _ _ => ?_
        cases fuel with
        | zero =>
          obtain rfl | ⟨-, hexcused⟩ := hfuel
          · exact inStep_throw _
          · exact fun _ _ _ => .excused hexcused
        | succ fuel =>
          cases fuel' with
          | zero => omega
          | succ fuel' =>
            apply ihTarget
            exact hfuel.imp Nat.succ.inj (And.imp_left Nat.le_of_succ_le_succ)

theorem matches_resolve (hab : a.Alike L excused b) (key : String) :
    Matches L excused Any (resolve a key) (resolve b key) := by
  refine inStep_get_bind fun w v h => ?_
  have hfind := h.registry.find? key
  dsimp only
  rw [← h.registry.size]
  generalize w.registry.find? key = found at hfind ⊢
  generalize v.registry.find? key = found' at hfind ⊢
  cases hfind with
  | none => exact .ok h trivial
  | some hpq =>
    dsimp only
    rw [← hpq.isResolved, ← hpq.dependencyRefs]
    split
    · exact .ok h trivial
    · have hfuel : a.capacity + w.registry.size = b.capacity + w.registry.size ∨
          a.capacity + w.registry.size ≤ b.capacity + w.registry.size ∧ excused .exhausted := by
        obtain hcapacity | ⟨hcapacity, hexcused⟩ := hab.capacity
        · exact .inl (by rw [hcapacity])
        · exact .inr ⟨Nat.add_le_add_right hcapacity _, hexcused⟩
      exact inStep_bind (matches_changeRegistry fun r s hrs => hrs.markResolved _)
        (fun _ _ _ => matches_resolveAll hab hfuel _) w v h

/-! ### Repairing -/

theorem matches_repairDependency (ref : DependencyRef) :
    Matches L excused Any (repairDependency ref) (repairDependency ref) := by
  refine inStep_get_bind fun w v h => ?_
  have hregistry := h.registry
  have hfind := hregistry.find? ref.manifest
  dsimp only
  generalize w.registry.find? ref.manifest = found at hfind ⊢
  generalize v.registry.find? ref.manifest = found' at hfind ⊢
  cases hfind with
  | none => exact .ok h trivial
  | @some p q hpq =>
    have hdep := rel_getElem? hpq.dependencies ref.index
    dsimp only
    generalize p.dependencies[ref.index]? = d at hdep ⊢
    generalize q.dependencies[ref.index]? = e at hdep ⊢
    cases hdep with
    | none => exact .ok h trivial
    | @some d e hde =>
      dsimp only
      rw [Dependency.isResolved, Dependency.isResolved, ← hde.target, ← hpq.manifest,
        Registry.borrowedTarget?, Registry.borrowedTarget?,
        ← hregistry.searchTarget hde.name [] [p.manifest]]
      split
      · exact .ok h trivial
      · split
        · exact .ok h trivial
        · exact inStep_bind (matches_report _ _ _ _ _ _) (fun _ _ _ =>
            matches_changeRegistry fun r s hrs => hrs.update _ fun p q hpq => hpq.withTarget _ _)
              w v h

theorem matches_repair (key : String) :
    Matches L excused Any (repair key) (repair key) := by
  refine inStep_get_bind fun w v h => ?_
  have hfind := h.registry.find? key
  generalize w.registry.find? key = found at hfind ⊢
  generalize v.registry.find? key = found' at hfind ⊢
  cases hfind with
  | none => exact .ok h trivial
  | @some p q hpq =>
    have hrefs : List.Forall₂ Eq p.dependencyRefs q.dependencyRefs := by
      rw [List.forall₂_eq_eq_eq]
      exact hpq.dependencyRefs
    refine inStep_forM hrefs (fun ref ref' href => ?_) w v h
    rw [← href]
    exact matches_repairDependency ref

end Workspace

end PascalWorkspace
