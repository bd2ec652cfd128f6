import PascalWorkspace.Proofs.Package.Shown
import PascalWorkspace.Proofs.Walk.Phases

/-! How a registry grows: at its end, by the packages of the manifests that were read in the
meantime. A package in it stays what its manifest was read as, and nothing that has been found out
about it is taken back. -/
namespace PascalWorkspace

/-- A package as its manifest was read, without what has been found out since. -/
def Package.asRead (p : Package) : Package where
  manifest := p.manifest
  name := p.name
  directory := p.directory
  paths := p.paths
  dependencies := p.dependencies.map fun d => { toRequirement := d.toRequirement }

/-- What may become of a registered package. -/
structure Package.Grows (p q : Package) : Prop where
  asRead : q.asRead = p.asRead
  dependents : p.requiredBy <+: q.requiredBy
  resolved : p.isResolved = true → q.isResolved = true
  merged : p.isMerged = true → q.isMerged = true
  published : p.isPublished = true → q.isPublished = true

namespace Package

variable {p q o : Package}

theorem Grows.refl (p : Package) : p.Grows p := ⟨rfl, List.prefix_refl _, id, id, id⟩

theorem Grows.trans (h : p.Grows q) (h' : q.Grows o) : p.Grows o :=
  ⟨h'.asRead.trans h.asRead, h.dependents.trans h'.dependents, h'.resolved ∘ h.resolved,
    h'.merged ∘ h.merged, h'.published ∘ h.published⟩

theorem Grows.manifest (h : p.Grows q) : q.manifest = p.manifest :=
  congrArg (·.manifest) h.asRead

theorem grows_withTarget (p : Package) (index : Nat) (target : String) :
    p.Grows (p.withTarget index target) := by
  refine ⟨?_, List.prefix_refl _, id, id, id⟩
  have hsame : (p.withTarget index target).dependencies.map
        (fun d => ({ toRequirement := d.toRequirement } : Dependency)) =
      p.dependencies.map fun d => { toRequirement := d.toRequirement } := by
    refine List.ext_getElem? fun i => ?_
    simp only [withTarget, List.getElem?_map, List.getElem?_modify]
    by_cases hi : index = i
    · simp [hi, Function.comp_def]
    · simp [hi]
  rw [asRead, hsame]
  rfl

end Package

/-- The package of a manifest, if the manifest can be read. -/
def ManifestSource.package? (source : ManifestSource) (key : String) : Option Package :=
  (source.read key).toOption.map (Package.ofManifest key)

theorem ManifestSource.manifest_of_package? {source : ManifestSource} {key : String} {p : Package}
    (h : source.package? key = some p) : p.manifest = key := by
  obtain ⟨m, -, rfl⟩ := Option.map_eq_some_iff.1 h
  rfl

namespace Registry

variable {r s t : Registry} {key target : String} {p q : Package} {ref : DependencyRef}
  {f : Package → Package} {package? : String → Option Package} {asked : List String}

/-- A registry has grown by the manifests that were read: those that could be have their packages
behind the others. -/
structure GrowsBy (package? : String → Option Package) (asked : List String) (r s : Registry) :
    Prop where
  requested : s.requested = r.requested ++ asked
  packages : List.Forall₂ Package.Grows (r.packages ++ asked.filterMap package?) s.packages

/-- Some manifests were read. -/
def Gains (package? : String → Option Package) (r s : Registry) : Prop :=
  ∃ asked, GrowsBy package? asked r s

theorem forall₂_grows_refl (packages : List Package) :
    List.Forall₂ Package.Grows packages packages := List.forall₂_same.2 fun p _ => .refl p

theorem forall₂_grows_trans {ps qs os : List Package} (h : List.Forall₂ Package.Grows ps qs)
    (h' : List.Forall₂ Package.Grows qs os) : List.Forall₂ Package.Grows ps os := by
  induction h generalizing os with
  | nil => exact h'
  | cons hp _ ih =>
    cases h' with
    | cons hq h' => exact .cons (hp.trans hq) (ih h')

theorem GrowsBy.trans {more : List String} (hrs : GrowsBy package? asked r s)
    (hst : GrowsBy package? more s t) : GrowsBy package? (asked ++ more) r t := by
  refine ⟨by rw [hst.requested, hrs.requested, List.append_assoc], ?_⟩
  rw [List.filterMap_append, ← List.append_assoc]
  exact forall₂_grows_trans (List.rel_append hrs.packages (forall₂_grows_refl _)) hst.packages

instance : IsPreorder Registry (Gains package?) where
  refl r := ⟨[], (List.append_nil _).symm, by simpa using forall₂_grows_refl r.packages⟩
  trans := by
    rintro r s t ⟨asked, hrs⟩ ⟨more, hst⟩
    exact ⟨asked ++ more, hrs.trans hst⟩

theorem gains_request (hread : package? key = none) : Gains package? r (r.request key) := by
  refine ⟨[key], rfl, ?_⟩
  rw [List.filterMap_cons_none hread, List.filterMap_nil, List.append_nil]
  exact forall₂_grows_refl _

theorem gains_read (hread : package? key = some p) :
    Gains package? r ((r.request key).add p) := by
  refine ⟨[key], rfl, ?_⟩
  rw [List.filterMap_cons_some hread, List.filterMap_nil]
  exact forall₂_grows_refl _

/-! ### What is found out about packages -/

/-- No manifest is asked for, and what has been found out about packages is not taken back. -/
structure Develops (r s : Registry) : Prop where
  byName : s.byName = r.byName
  requested : s.requested = r.requested
  packages : List.Forall₂ Package.Grows r.packages s.packages

instance : IsPreorder Registry Develops where
  refl _ := ⟨rfl, rfl, forall₂_grows_refl _⟩
  trans _ _ _ hrs hst := ⟨hst.byName.trans hrs.byName, hst.requested.trans hrs.requested,
    forall₂_grows_trans hrs.packages hst.packages⟩

theorem Develops.gains (h : Develops r s) : Gains package? r s :=
  ⟨[], by rw [h.requested, List.append_nil], by simpa using h.packages⟩

theorem develops_update (hf : ∀ p : Package, p.Grows (f p)) : Develops r (r.update key f) := by
  refine ⟨rfl, rfl, ?_⟩
  rw [update, List.forall₂_map_right_iff, List.forall₂_same]
  intro p _
  split
  · exact hf p
  · exact .refl p

theorem develops_setTarget : Develops r (r.setTarget ref target) :=
  develops_update fun p => p.grows_withTarget ref.index target

theorem develops_addDependent : Develops r (r.addDependent key target) :=
  develops_update fun _ => ⟨rfl, List.prefix_append _ _, id, id, id⟩

theorem develops_link : Develops r (r.link ref target) :=
  trans_of Develops develops_setTarget develops_addDependent

theorem develops_markResolved : Develops r (r.markResolved key) :=
  develops_update fun _ => ⟨rfl, List.prefix_refl _, fun _ => rfl, id, id⟩

theorem develops_mergeAll (tasks : List MergeTask) : Develops r (r.mergeAll tasks) := by
  fun_induction mergeAll r tasks with
  | case1 r => exact refl_of Develops r
  | case2 r key target rest ih =>
    refine trans_of Develops ?_ ih
    unfold appendPaths
    split
    · exact refl_of Develops r
    · exact develops_update fun _ => ⟨rfl, List.prefix_refl _, id, id, id⟩
  | case3 r key rest hfind ih => exact ih
  | case4 r key rest p hfind hp ih => exact ih
  | case5 r key rest p hfind hp ih =>
    refine trans_of Develops ?_ ih
    exact develops_update fun _ => ⟨rfl, List.prefix_refl _, id, fun _ => rfl, id⟩

theorem develops_publishAll (tree : DefineTree) (pending : List String) :
    Develops r (r.publishAll tree pending).1 := by
  fun_induction publishAll r tree pending with
  | case1 r tree => exact refl_of Develops r
  | case2 r tree key rest hfind ih => exact ih
  | case3 r tree key rest p hfind hp ih => exact ih
  | case4 r tree key rest p hfind hp ih =>
    refine trans_of Develops ?_ ih
    exact develops_update fun _ => ⟨rfl, List.prefix_refl _, id, id, fun _ => rfl⟩

/-! ### What growth keeps -/

/-- What a manifest was read as stays. -/
theorem map_of_forall₂_grows {β : Type} {view : Package → β} {ps qs : List Package}
    (hview : ∀ p, view p.asRead = view p) (h : List.Forall₂ Package.Grows ps qs) :
    qs.map view = ps.map view := by
  rw [← List.forall₂_eq_eq_eq, List.forall₂_map_left_iff, List.forall₂_map_right_iff]
  exact h.flip.imp fun q p hp => by rw [← hview, hp.asRead, hview]

theorem map_manifest_of_forall₂_grows {ps qs : List Package}
    (h : List.Forall₂ Package.Grows ps qs) : qs.map (·.manifest) = ps.map (·.manifest) :=
  map_of_forall₂_grows (fun _ => rfl) h

theorem GrowsBy.map_manifest (h : GrowsBy package? asked r s)
    (hmanifest : ∀ key p, package? key = some p → p.manifest = key) :
    s.packages.map (·.manifest) =
      r.packages.map (·.manifest) ++ asked.filter fun key => (package? key).isSome := by
  have hread : (asked.filterMap package?).map (·.manifest) =
      asked.filter fun key => (package? key).isSome := by
    rw [List.map_filterMap, ← List.filterMap_eq_filter]
    refine List.filterMap_congr fun key _ => ?_
    cases hp : package? key with
    | none => simp [hp, Option.guard]
    | some p => simp [hp, Option.guard, hmanifest key p hp]
  rw [map_manifest_of_forall₂_grows h.packages, List.map_append, hread]

/-- Registered packages stay in front. -/
theorem GrowsBy.exists_packages (h : GrowsBy package? asked r s) :
    ∃ old new, s.packages = old ++ new ∧ List.Forall₂ Package.Grows r.packages old ∧
      List.Forall₂ Package.Grows (asked.filterMap package?) new := by
  refine ⟨_, _, (List.take_append_drop r.packages.length s.packages).symm, ?_, ?_⟩
  · simpa using List.forall₂_take r.packages.length h.packages
  · simpa using List.forall₂_drop r.packages.length h.packages

end Registry

namespace Workspace

open Operation Registry

variable {source : ManifestSource} {source? : Option ManifestSource} {path : String} {h : Host}
  {ignored : List String} {directory : Path} {R : Registry → Registry → Prop}

/-- A relation between registries absorbs whatever comes of asking a source, if there is one, and
whatever is found out about packages. -/
structure Absorbs (source? : Option ManifestSource) (R : Registry → Registry → Prop) : Prop where
  asked : ∀ source ∈ source?, ∀ path r result s, Asked source path r result s → R r s
  found : ∀ r s, Develops r s → R r s

theorem Absorbs.of_source (hR : Absorbs (some source) R)
    (h : ∀ other ∈ source?, other = source) : Absorbs source? R :=
  ⟨fun other hother => h other hother ▸ hR.asked source rfl, hR.found⟩

/-! A relation that absorbs that much is kept by whatever is done with the source. -/

section Absorbed

variable [IsPreorder Registry R]

theorem absorbed_repair (hR : Absorbs source? R) (key : String) :
    Keeps (OnRegistry R) (repair key) :=
  keeps_repair_of_borrow (fun _ _ _ _ _ => hR.found _ _ develops_setTarget) key

variable (hR : Absorbs (some source) R)
include hR

omit [IsPreorder Registry R] in
theorem absorbed_register (path : String) : Keeps (OnRegistry R) (register source path) :=
  fun w => hR.asked source rfl _ _ _ _ (asked_register source path w)

omit [IsPreorder Registry R] in
theorem absorbed_tryRegister (path : String) : Keeps (OnRegistry R) (tryRegister source path) := by
  intro w
  obtain ⟨_, hasked, -⟩ := asked_tryRegister source path w
  exact hR.asked source rfl _ _ _ _ hasked

theorem absorbed_linkDependency (ref : DependencyRef) :
    Keeps (OnRegistry R) (linkDependency source ref) := by
  refine keeps_bind keeps_get fun w => ?_
  dsimp only
  split
  · exact keeps_pure _
  · split
    · exact keeps_pure _
    · split
      · exact keeps_bind (keeps_report _ _ _) fun _ => keeps_pure _
      · refine keeps_bind (absorbed_tryRegister hR _) fun result => ?_
        cases result with
        | error reason => exact keeps_bind (keeps_report _ _ _) fun _ => keeps_pure _
        | ok target =>
          refine keeps_bind (keeps_report _ _ _) fun _ => ?_
          exact keeps_bind (fun _ => hR.found _ _ develops_link) fun _ => keeps_pure _

theorem absorbed_resolve (key : String) : Keeps (OnRegistry R) (resolve source key) :=
  keeps_resolve_of_link (absorbed_linkDependency hR)
    (fun _ _ => hR.found _ _ develops_markResolved) key

theorem absorbed_forPackages {act : Package → Action Unit} {visits : List Visit}
    (hact : ∀ p, Keeps (OnRegistry R) (act p)) :
    Keeps (OnRegistry R) (forPackages source act visits) :=
  keeps_forPackages hact fun _ _ m _ => absorbed_tryRegister hR m.toString

theorem absorbed_resolveBelow :
    Keeps (OnRegistry R) (resolveBelow h source ignored directory) :=
  keeps_bind (absorbed_forPackages hR fun p => absorbed_resolve hR p.manifest) fun _ => keeps_pure _

theorem absorbed_repairBelow : Keeps (OnRegistry R) (repairBelow h source ignored directory) :=
  keeps_bind (absorbed_forPackages hR fun p => absorbed_repair hR p.manifest) fun _ => keeps_pure _

theorem absorbed_publishBelow : Keeps (OnRegistry R) (publishBelow h source ignored directory) :=
  keeps_publishBelow (fun _ _ => hR.found _ _ (develops_mergeAll _))
    (fun _ _ _ => hR.found _ _ (develops_publishAll _ _))
    fun _ _ m _ => absorbed_tryRegister hR m.toString

end Absorbed

/-! ### What is read -/

theorem Asked.gains {result : Except Failure Package} {r s : Registry}
    (h : Asked source path r result s) : Gains source.package? r s := by
  cases h with
  | badPath => exact refl_of (Gains _) r
  | refused _ _ hread => exact gains_request (by rw [ManifestSource.package?, hread]; rfl)
  | known => exact refl_of (Gains _) r
  | registered _ _ hread => exact gains_read (by rw [ManifestSource.package?, hread]; rfl)

theorem absorbs_gains (source : ManifestSource) :
    Absorbs (some source) (Gains source.package?) := by
  refine ⟨fun other hother path r result s h => ?_, fun r s h => h.gains⟩
  obtain rfl := Option.mem_some_iff.1 hother
  exact h.gains

theorem gains_tryRegister (source : ManifestSource) (path : String) :
    Keeps (OnRegistry (Gains source.package?)) (tryRegister source path) :=
  absorbed_tryRegister (absorbs_gains source) path

end Workspace

end PascalWorkspace
