import PascalWorkspace.Proofs.Package.Growth
import PascalWorkspace.Proofs.Package.NameIndex

/-! What a registry can hold: packages of manifests that a source offers, each once. There is room
for no more than the source can offer, so that only so many packages can still be met for the first
time. -/
namespace PascalWorkspace

/-- A package that grows requires what it required before. -/
theorem Package.Grows.requirements {p q : Package} (h : p.Grows q) :
    q.dependencies.map (·.toRequirement) = p.dependencies.map (·.toRequirement) := by
  have hread : q.asRead.dependencies.map (·.toRequirement) =
      p.asRead.dependencies.map (·.toRequirement) := by rw [h.asRead]
  simpa [Package.asRead, Function.comp_def] using hread

namespace ManifestSource

/-- A manifest that can be read under a canonical spelling. -/
def Offers (source : ManifestSource) (key : String) (m : Manifest) : Prop :=
  (∃ text, source.canonical text = .ok key) ∧ source.read key = .ok m

/-- A source that answers, or fails as expected only: what cannot be read is reported as a manifest,
and it is known which hints have no canonical spelling. -/
structure Reliable (source : ManifestSource) (expected : Failure → Prop) : Prop where
  reads : ∀ text key, source.canonical text = .ok key → (∃ m, source.read key = .ok m) ∨
    ∃ path fault, source.read key = .error (.manifest path fault)
  again : ∀ key m, source.Offers key m → ∃ other, source.canonical key = .ok other
  hints : ∀ key m, source.Offers key m → ∀ q ∈ m.requirements, q.hint ≠ "" →
    ∀ e, source.canonical q.hint = .error e → expected (.badPath e)
  bounded : ∀ keys : List String, keys.Nodup → (∀ key ∈ keys, ∃ m, source.Offers key m) →
    keys.length ≤ source.capacity

theorem Reliable.imp {source : ManifestSource} {expected expected' : Failure → Prop}
    (h : source.Reliable expected) (himp : ∀ failure, expected failure → expected' failure) :
    source.Reliable expected' :=
  ⟨h.reads, h.again, fun key m hm q hq hne e he => himp _ (h.hints key m hm q hq hne e he),
    h.bounded⟩

end ManifestSource

namespace Registry

variable {source : ManifestSource} {expected : Failure → Prop} {r s : Registry} {key : String}
  {p : Package} {m : Manifest} {slack : Nat}

/-- The number of packages whose dependencies have not been looked for. -/
def unbegun (r : Registry) : Nat := r.count (!·.isResolved)

theorem unbegun_le_size (r : Registry) : r.unbegun ≤ r.size := List.countP_le_length

theorem unbegun_markResolved (hfind : (r.find? key).isSome) (hnew : r.isResolvedAt key = false) :
    (r.markResolved key).unbegun < r.unbegun := by
  obtain ⟨p, hp⟩ := Option.isSome_iff_exists.1 hfind
  rw [isResolvedAt_of_find? hp] at hnew
  exact count_update_lt hp (by simp [hnew]) fun _ => rfl

/-- All packages are those of manifests on offer, and there is room for the rest: the packages that
can still be begun are no more than the slack. -/
structure Stocked (source : ManifestSource) (slack : Nat) (r : Registry) : Prop where
  distinct : r.Distinct
  catalogued : r.Catalogued
  offered : ∀ p ∈ r.packages, ∃ m, source.Offers p.manifest m ∧
    p.dependencies.map (·.toRequirement) = m.requirements
  room : source.capacity + r.unbegun ≤ slack + r.size

theorem stocked_empty (source : ManifestSource) : Stocked source source.capacity {} :=
  ⟨List.nodup_nil, catalogued_empty, by simp, le_rfl⟩

theorem Stocked.size_le (h : Stocked source slack r) (hsource : source.Reliable expected) :
    r.size ≤ source.capacity := by
  have hbounded := hsource.bounded _ h.distinct fun key hkey => by
    obtain ⟨p, hp, rfl⟩ := List.mem_map.1 hkey
    obtain ⟨m, hm, -⟩ := h.offered p hp
    exact ⟨m, hm⟩
  rwa [List.length_map] at hbounded

/-- With as much slack as the source has room there is always enough. -/
theorem Stocked.of_slack {other : Nat} (h : Stocked source slack r)
    (hother : source.capacity ≤ other) : Stocked source other r :=
  ⟨h.distinct, h.catalogued, h.offered, Nat.add_le_add hother r.unbegun_le_size⟩

theorem Stocked.register (h : Stocked source slack r) (hm : source.Offers key m)
    (hnew : r.find? key = none) :
    Stocked source slack ((r.request key).add (.ofManifest key m)) := by
  have hadmits : Admits r key ((r.request key).add (.ofManifest key m)) := .registered m hnew
  refine ⟨hadmits.distinct h.distinct, hadmits.catalogued h.catalogued, fun p hp => ?_, ?_⟩
  · obtain hp | hp := List.mem_append.1 hp
    · exact h.offered p hp
    · obtain rfl := List.mem_singleton.1 hp
      exact ⟨m, hm, by simp [Package.ofManifest, Function.comp_def]⟩
  · have hunbegun : ((r.request key).add (.ofManifest key m)).unbegun = r.unbegun + 1 :=
      List.countP_append
    have hsize : ((r.request key).add (.ofManifest key m)).size = r.size + 1 :=
      List.length_append
    have hroom := h.room
    omega

theorem exists_of_forall₂_grows {packages others : List Package} {q : Package}
    (h : List.Forall₂ Package.Grows packages others) (hq : q ∈ others) :
    ∃ p ∈ packages, p.Grows q := by
  induction h with
  | nil => cases hq
  | cons hp _ ih =>
    obtain rfl | hq := List.mem_cons.1 hq
    · exact ⟨_, List.mem_cons_self, hp⟩
    · obtain ⟨p, hp, hgrows⟩ := ih hq
      exact ⟨p, List.mem_cons_of_mem _ hp, hgrows⟩

theorem countP_le_of_forall₂_grows {packages others : List Package}
    (h : List.Forall₂ Package.Grows packages others) :
    others.countP (!·.isResolved) ≤ packages.countP (!·.isResolved) := by
  induction h with
  | nil => exact le_rfl
  | @cons p q _ _ hp _ ih =>
    have hresolved := hp.resolved
    rw [List.countP_cons, List.countP_cons]
    cases hbegun : p.isResolved <;> cases hstill : q.isResolved <;> simp_all
    omega

/-- Nothing is taken back by what is found out about packages. -/
theorem Stocked.later (h : Stocked source slack r) (hs : Develops r s) :
    Stocked source slack s := by
  have hkeys : s.packages.map (·.manifest) = r.packages.map (·.manifest) :=
    map_manifest_of_forall₂_grows hs.packages
  have hnames : s.names = r.names := map_of_forall₂_grows (fun _ => rfl) hs.packages
  refine ⟨?_, h.catalogued.congr hs.byName hnames, fun q hq => ?_, ?_⟩
  · rw [Distinct, hkeys]
    exact h.distinct
  · obtain ⟨p, hp, hgrown⟩ := exists_of_forall₂_grows hs.packages hq
    obtain ⟨m, hm, hrequirements⟩ := h.offered p hp
    rw [← hgrown.manifest] at hm
    exact ⟨m, hm, hgrown.requirements.trans hrequirements⟩
  · have hunbegun : s.unbegun ≤ r.unbegun := countP_le_of_forall₂_grows hs.packages
    have hsize : r.size = s.size := hs.packages.length_eq
    have hroom := h.room
    omega

/-- What holds manifests on offer only goes on to do so. -/
def StaysStocked (source : ManifestSource) (slack : Nat) (r s : Registry) : Prop :=
  Stocked source slack r → Stocked source slack s

instance : IsPreorder Registry (StaysStocked source slack) where
  refl _ := id
  trans _ _ _ hrs hst := hst ∘ hrs

end Registry

namespace Workspace

open Registry

variable {source : ManifestSource} {path : String} {r s : Registry} {slack : Nat}

theorem Asked.staysStocked {result : Except Failure Package} (h : Asked source path r result s) :
    StaysStocked source slack r s := by
  intro hr
  cases h with
  | badPath => exact hr
  | refused => exact ⟨hr.distinct, hr.catalogued.congr rfl rfl, hr.offered, hr.room⟩
  | known => exact hr
  | registered hkey hnew hread => exact hr.register ⟨⟨path, hkey⟩, hread⟩ hnew

theorem absorbs_staysStocked (source : ManifestSource) (slack : Nat) :
    Absorbs (some source) (StaysStocked source slack) := by
  refine ⟨fun other hother path r result s h => ?_, fun r s h hr => hr.later h⟩
  obtain rfl := Option.mem_some_iff.1 hother
  exact h.staysStocked

end Workspace

end PascalWorkspace
