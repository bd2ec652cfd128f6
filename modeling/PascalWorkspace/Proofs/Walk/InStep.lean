import PascalWorkspace.Proofs.Package.InStep
import PascalWorkspace.Walk.Phases

/-! Walks that visit the same directories stay in step. The second may list more manifests if they
are of those that it passes over. -/
namespace PascalWorkspace

open Operation

/-- A list, and the same with more members of a kind in between. -/
inductive Padded {α : Type} (extra : α → Prop) : List α → List α → Prop where
  | nil : Padded extra [] []
  | same (x : α) {xs ys : List α} (h : Padded extra xs ys) : Padded extra (x :: xs) (x :: ys)
  | more {y : α} {xs ys : List α} (hy : extra y) (h : Padded extra xs ys) :
    Padded extra xs (y :: ys)

theorem padded_refl {α : Type} {extra : α → Prop} : ∀ xs : List α, Padded extra xs xs
  | [] => .nil
  | x :: xs => .same x (padded_refl xs)

/-- What two walks find in a directory. -/
inductive Visit.Alike (extra : Path → Prop) : Visit → Visit → Prop where
  | listed (directory : Path) {ms ms' : List Path} (h : Padded extra ms ms') :
    Alike extra ⟨directory, .ok ms⟩ ⟨directory, .ok ms'⟩
  | refused (directory : Path) (e e' : FileError) (path path' : String) :
    Alike extra ⟨directory, .error (.refused e path)⟩ ⟨directory, .error (.refused e' path')⟩
  | failed (directory : Path) (e : PathError) :
    Alike extra ⟨directory, .error e⟩ ⟨directory, .error e⟩

theorem Visit.alike_refl {extra : Path → Prop} (v : Visit) : v.Alike extra v := by
  obtain ⟨directory, manifests⟩ := v
  cases manifests with
  | ok ms => exact .listed directory (padded_refl ms)
  | error e => exact .failed directory e

/-- A source has nothing but a fault for a manifest, which is not to be registered. -/
def ManifestSource.PassesOver (L : Likeness) (source : ManifestSource) (manifest : Path) : Prop :=
  ∃ key place fault, source.canonical manifest.toString = .ok key ∧ ¬ L.keys key ∧
    source.read key = .error (.manifest place fault)

namespace Workspace

variable {L : Likeness} {excused : Failure → Prop} {a b : ManifestSource} {w v : Workspace}
  {act act' : Package → Action Unit} {h h' : Host}

/-- Asking for a manifest that is passed over leaves no more than a report. -/
theorem alike_of_passesOver {m : Path} (hm : b.PassesOver L m) (hwv : w.Alike L v) : ∃ reason u,
    outcome (tryRegister b m.toString) v = (.ok (.error reason), u) ∧ w.Alike L u := by
  obtain ⟨key, place, fault, hkey, hlisted, hread⟩ := hm
  have hnew : v.registry.find? key = none := by
    cases hp : w.registry.find? key with
    | none => exact hwv.registry.find?_eq_none hp
    | some p =>
      obtain ⟨q, -, hpq⟩ := hwv.registry.exists_find? hp
      exact (hlisted (Registry.find?_manifest hp ▸ hpq.key)).elim
  rw [outcome_tryRegister, after, outcome_register_refused hkey hnew hread]
  exact ⟨_, _, rfl, ⟨hwv.registry.packages, hwv.registry.byName⟩, hwv.defines⟩

theorem matches_forManifests (hab : a.Alike L excused b)
    (hact : ∀ p q, p.Alike L q → Matches L excused Any (act p) (act' q)) (reporter : Reporter)
    {ms ms' : List Path} (hms : Padded (b.PassesOver L) ms ms') :
    Matches L excused (List.Forall₂ (Package.Alike L)) (forManifests a act reporter ms)
      (forManifests b act' reporter ms') := by
  induction hms with
  | nil => exact inStep_pure .nil
  | same m _ ih =>
    refine inStep_bind (matches_tryRegister hab _) fun result result' hresult => ?_
    cases hresult with
    | fault => exact inStep_bind (matches_report _ _ _ _ _ _) fun _ _ _ => ih
    | package hpq =>
      exact inStep_bind (hact _ _ hpq) fun _ _ _ => inStep_bind ih fun _ _ hothers =>
        inStep_pure (.cons hpq hothers)
  | more hm _ ih =>
    intro w v hwv
    obtain ⟨reason, u, hrun, hwu⟩ := alike_of_passesOver hm hwv
    rw [forManifests, outcome_bind_ok _ hrun]
    exact ih w _ ⟨hwu.registry, hwu.defines⟩

theorem matches_listedManifests {extra : Path → Prop} (reporter : Reporter) {x y : Visit}
    (hxy : x.Alike extra y) : Matches L excused (Padded extra) (listedManifests reporter x)
      (listedManifests reporter y) := by
  cases hxy with
  | listed directory hms => exact inStep_pure hms
  | refused => exact inStep_bind (matches_report _ _ _ _ _ _) fun _ _ _ => inStep_pure .nil
  | failed directory e =>
    cases e with
    | refused => exact inStep_bind (matches_report _ _ _ _ _ _) fun _ _ _ => inStep_pure .nil
    | _ => exact inStep_throw _

theorem matches_forPackages (hab : a.Alike L excused b)
    (hact : ∀ p q, p.Alike L q → Matches L excused Any (act p) (act' q)) {xs ys : List Visit}
    (hxs : List.Forall₂ (Visit.Alike (b.PassesOver L)) xs ys) :
    Matches L excused (List.Forall₂ (Package.Alike L)) (forPackages a act xs)
      (forPackages b act' ys) := by
  induction hxs with
  | nil => exact inStep_pure .nil
  | cons hxy _ ih =>
    exact inStep_bind (matches_listedManifests _ hxy) fun _ _ hms =>
      inStep_bind (matches_forManifests hab hact _ hms) fun _ _ hpackages =>
        inStep_bind ih fun _ _ hothers => inStep_pure (List.rel_append hpackages hothers)

theorem matches_mergePaths (key : String) :
    Matches L excused Any (mergePaths key) (mergePaths key) :=
  matches_changeRegistry fun _ _ hrs => hrs.mergeAll _

theorem matches_publish (key : String) : Matches L excused Any (publish key) (publish key) :=
  inStep_modify fun _ _ hwv =>
    ⟨(hwv.registry.publishAll hwv.defines _).1, (hwv.registry.publishAll hwv.defines _).2⟩

theorem matches_publishAndReport {p q : Package} (hpq : p.Alike L q) :
    Matches L excused Any (publishAndReport p) (publishAndReport q) := by
  unfold publishAndReport
  rw [← hpq.manifest]
  exact inStep_bind (matches_publish _) fun _ _ _ =>
    inStep_get_bind fun w v hwv => matches_report _ _ _ _ _ _ w v hwv

theorem matches_publishVisit (hab : a.Alike L excused b)
    (hcanonical : ∀ text, h.canonical text = h'.canonical text) {x y : Visit}
    (hxy : x.Alike (b.PassesOver L) y) :
    Matches L excused Any (publishVisit h a x) (publishVisit h' b y) := by
  have hdirectory : x.directory = y.directory := by cases hxy <;> rfl
  unfold publishVisit
  rw [hdirectory, hcanonical]
  refine inStep_bind (matches_report _ _ _ _ _ _) fun _ _ _ => ?_
  refine inStep_bind (inStep_ofPathResult _) fun directory _ hsame => ?_
  subst hsame
  refine inStep_bind (matches_addNode (.same _)) fun _ _ _ => ?_
  refine inStep_bind (matches_listedManifests _ hxy) fun _ _ hms => ?_
  refine inStep_bind (matches_forManifests hab (fun _ _ _ => inStep_pure trivial) _ hms)
    fun _ _ hpackages => ?_
  refine inStep_bind (inStep_forM hpackages fun p q hpq => ?_) fun _ _ _ =>
    inStep_forM hpackages fun p q hpq => matches_publishAndReport hpq
  rw [← hpq.manifest]
  exact matches_mergePaths _

end Workspace

/-! ### The walks of a scan -/

/-- Two machines that give the same canonical paths and lead a walk through the same directories. -/
structure Host.Alike (extra : Path → Prop) (ignored : List String) (root : Path) (h h' : Host) :
    Prop where
  canonical (text : String) : h.canonical text = h'.canonical text
  visits : List.Forall₂ (Visit.Alike extra) (Visit.all h ignored root) (Visit.all h' ignored root)

theorem Host.alike_refl {extra : Path → Prop} (ignored : List String) (root : Path) (h : Host) :
    h.Alike extra ignored root h :=
  ⟨fun _ => rfl, List.forall₂_same.2 fun v _ => v.alike_refl⟩

namespace Workspace

variable {L : Likeness} {excused : Failure → Prop} {a b : ManifestSource} {h h' : Host}
  {ignored : List String} {root : Path}

theorem matches_resolveBelow (hab : a.Alike L excused b)
    (hh : h.Alike (b.PassesOver L) ignored root h') :
    Matches L excused Eq (resolveBelow h a ignored root) (resolveBelow h' b ignored root) := by
  refine inStep_bind (matches_forPackages hab (fun p q hpq => ?_) hh.visits) fun _ _ hpackages =>
    inStep_pure hpackages.length_eq
  rw [← hpq.manifest]
  exact matches_resolve hab _

theorem matches_repairBelow (hab : a.Alike L excused b)
    (hh : h.Alike (b.PassesOver L) ignored root h') :
    Matches L excused Eq (repairBelow h a ignored root) (repairBelow h' b ignored root) := by
  refine inStep_bind (matches_forPackages hab (fun p q hpq => ?_) hh.visits) fun _ _ hpackages =>
    inStep_pure hpackages.length_eq
  rw [← hpq.manifest]
  exact matches_repair _

theorem matches_publishBelow (hab : a.Alike L excused b)
    (hh : h.Alike (b.PassesOver L) ignored root h') :
    Matches L excused Any (publishBelow h a ignored root) (publishBelow h' b ignored root) :=
  inStep_forM hh.visits fun _ _ hxy => matches_publishVisit hab hh.canonical hxy

end Workspace

end PascalWorkspace
