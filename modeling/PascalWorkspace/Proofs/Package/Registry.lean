import Mathlib.Data.List.Nodup
import PascalWorkspace.Package.Resolution

/-! What the rest of the program sees of a registry: the dependencies of a package, the packages
that require it, and whether its dependencies have been looked for. Every change of a registry is
described by what it does to these. -/
namespace PascalWorkspace

def Dependency.withTarget (d : Dependency) (target : String) : Dependency :=
  { d with target := some target }

namespace Registry

variable {r : Registry} {key other target : String} {p q : Package} {ref place : DependencyRef}
  {f g : Package → Package}

def dependenciesOf (r : Registry) (key : String) : List Dependency :=
  ((r.find? key).map (·.dependencies)).getD []

/-- The dependency at a place. -/
def dependency? (r : Registry) (ref : DependencyRef) : Option Dependency :=
  (r.dependenciesOf ref.manifest)[ref.index]?

/-- The packages that were found to need a package. -/
def dependentsOf (r : Registry) (key : String) : List String :=
  ((r.find? key).map (·.requiredBy)).getD []

/-- Whether the dependencies of a package have been looked for. -/
def isResolvedAt (r : Registry) (key : String) : Bool :=
  ((r.find? key).map (·.isResolved)).getD false

def setTarget (r : Registry) (ref : DependencyRef) (target : String) : Registry :=
  r.update ref.manifest (·.withTarget ref.index target)

def addDependent (r : Registry) (key dependent : String) : Registry :=
  r.update key fun p => { p with requiredBy := p.requiredBy ++ [dependent] }

theorem link_eq : r.link ref target = (r.setTarget ref target).addDependent target ref.manifest :=
  rfl

/-- No manifest is registered twice. -/
def Distinct (r : Registry) : Prop := (r.packages.map (·.manifest)).Nodup

theorem find?_eq_none : r.find? key = none ↔ ∀ p ∈ r.packages, p.manifest ≠ key := by
  simp [find?]

theorem find?_of_mem (h : r.Distinct) (hp : p ∈ r.packages) : r.find? p.manifest = some p := by
  cases hq : r.find? p.manifest with
  | none => exact absurd rfl (find?_eq_none.1 hq p hp)
  | some q => exact congrArg some (List.inj_on_of_nodup_map h (find?_mem hq) hp (find?_manifest hq))

theorem dependenciesOf_of_find? (h : r.find? key = some p) :
    r.dependenciesOf key = p.dependencies := by
  simp [dependenciesOf, h]

theorem dependentsOf_of_find? (h : r.find? key = some p) : r.dependentsOf key = p.requiredBy := by
  simp [dependentsOf, h]

theorem isResolvedAt_of_find? (h : r.find? key = some p) : r.isResolvedAt key = p.isResolved := by
  simp [isResolvedAt, h]

theorem dependency?_of_find? (h : r.find? ref.manifest = some p) :
    r.dependency? ref = p.dependencies[ref.index]? := by
  rw [dependency?, dependenciesOf_of_find? h]

theorem exists_dependency?_of_mem {d : Dependency} (h : r.find? key = some p)
    (hd : d ∈ p.dependencies) : ∃ index, r.dependency? ⟨key, index⟩ = some d := by
  obtain ⟨index, hindex⟩ := List.mem_iff_getElem?.1 hd
  exact ⟨index, (dependency?_of_find? h).trans hindex⟩

theorem find?_of_dependency? {d : Dependency} (h : r.dependency? ref = some d) :
    ∃ p, r.find? ref.manifest = some p ∧ p.dependencies[ref.index]? = some d := by
  cases hp : r.find? ref.manifest with
  | none => simp [dependency?, dependenciesOf, hp] at h
  | some p => exact ⟨p, rfl, by rw [← h, dependency?_of_find? hp]⟩

theorem mem_dependencyRefs : ref ∈ p.dependencyRefs ↔
    ref.manifest = p.manifest ∧ ref.index < p.dependencies.length := by
  obtain ⟨m, i⟩ := ref
  simp [Package.dependencyRefs, eq_comm, and_comm]

theorem nodup_dependencyRefs (p : Package) : p.dependencyRefs.Nodup :=
  List.nodup_range.map fun i j h => by simpa using h

theorem dependency?_isSome_iff (h : r.find? p.manifest = some p) :
    (r.dependency? ref).isSome ∧ ref.manifest = p.manifest ↔ ref ∈ p.dependencyRefs := by
  rw [mem_dependencyRefs, and_comm]
  refine and_congr_right fun hm => ?_
  rw [dependency?_of_find? (hm ▸ h), isSome_getElem?]

/-! ### Updates -/

/-- An update that leaves a view of all packages alone leaves the list of what they look like. -/
theorem map_update {β : Type} {view : Package → β} (hview : ∀ p, view (f p) = view p) :
    (r.update key f).packages.map view = r.packages.map view := by
  rw [update, List.map_map]
  congr 1
  funext p
  by_cases hp : p.manifest = key <;> simp [hp, hview]

section Update

variable (hf : ∀ p, (f p).manifest = p.manifest)
include hf

theorem find?_update :
    (r.update key f).find? other = (r.find? other).map fun p => if other = key then f p else p := by
  have hpred : ((fun p : Package => p.manifest == other) ∘
      fun p => if p.manifest = key then f p else p) = fun p => p.manifest == other := by
    funext p
    by_cases hp : p.manifest = key <;> simp [hp, hf]
  simp only [find?, update, List.find?_map, hpred]
  cases h : r.packages.find? fun p => p.manifest == other with
  | none => rfl
  | some p =>
    have hp : p.manifest = other := find?_manifest h
    simp [hp]

theorem find?_update_of_ne (hne : other ≠ key) : (r.update key f).find? other = r.find? other := by
  simp [find?_update hf, hne]

theorem isSome_find?_update : ((r.update key f).find? other).isSome = (r.find? other).isSome := by
  rw [find?_update hf, Option.isSome_map]

theorem distinct_update (h : r.Distinct) : (r.update key f).Distinct := by
  rwa [Distinct, map_update hf]

/-- An update that leaves a property of all packages alone leaves it alone everywhere. -/
theorem map_find?_update {β : Type} {view : Package → β} (hview : ∀ p, view (f p) = view p) :
    ((r.update key f).find? other).map view = (r.find? other).map view := by
  rw [find?_update hf, Option.map_map]
  congr 1
  funext p
  by_cases h : other = key <;> simp [h, hview]

theorem dependenciesOf_update (hdep : ∀ p, (f p).dependencies = p.dependencies) :
    (r.update key f).dependenciesOf other = r.dependenciesOf other := by
  rw [dependenciesOf, map_find?_update hf hdep, dependenciesOf]

theorem dependency?_update (hdep : ∀ p, (f p).dependencies = p.dependencies) :
    (r.update key f).dependency? ref = r.dependency? ref := by
  rw [dependency?, dependenciesOf_update hf hdep, dependency?]

theorem dependentsOf_update (hreq : ∀ p, (f p).requiredBy = p.requiredBy) :
    (r.update key f).dependentsOf other = r.dependentsOf other := by
  rw [dependentsOf, map_find?_update hf hreq, dependentsOf]

theorem isResolvedAt_update (hres : ∀ p, (f p).isResolved = p.isResolved) :
    (r.update key f).isResolvedAt other = r.isResolvedAt other := by
  rw [isResolvedAt, map_find?_update hf hres, isResolvedAt]

end Update

theorem isSome_find?_setTarget :
    ((r.setTarget ref target).find? key).isSome = (r.find? key).isSome :=
  isSome_find?_update fun _ => rfl

theorem isSome_find?_addDependent :
    ((r.addDependent target other).find? key).isSome = (r.find? key).isSome :=
  isSome_find?_update fun _ => rfl

theorem dependenciesOf_setTarget : (r.setTarget ref target).dependenciesOf key =
    if key = ref.manifest then
      (r.dependenciesOf key).modify ref.index fun d => d.withTarget target
    else r.dependenciesOf key := by
  have hfind : (r.setTarget ref target).find? key = (r.find? key).map fun p =>
      if key = ref.manifest then p.withTarget ref.index target else p := find?_update fun _ => rfl
  rw [dependenciesOf, hfind]
  by_cases hk : key = ref.manifest
  · cases hp : r.find? key with
    | none => simp [dependenciesOf, hp]
    | some p => simp [dependenciesOf, hp, ← hk, Package.withTarget, Dependency.withTarget]
  · simp [dependenciesOf, hk]

theorem dependency?_setTarget : (r.setTarget ref target).dependency? place =
    if place = ref then (r.dependency? place).map (·.withTarget target)
    else r.dependency? place := by
  obtain ⟨m, i⟩ := place
  obtain ⟨n, j⟩ := ref
  rw [dependency?, dependenciesOf_setTarget]
  by_cases hm : m = n
  · subst hm
    by_cases hi : i = j
    · simp [hi, dependency?]
    · simp [hi, dependency?, Ne.symm hi]
  · simp [hm, dependency?]

theorem dependentsOf_setTarget :
    (r.setTarget ref target).dependentsOf key = r.dependentsOf key :=
  dependentsOf_update (fun _ => rfl) fun _ => rfl

theorem isResolvedAt_setTarget :
    (r.setTarget ref target).isResolvedAt key = r.isResolvedAt key :=
  isResolvedAt_update (fun _ => rfl) fun _ => rfl

theorem dependenciesOf_addDependent :
    (r.addDependent target other).dependenciesOf key = r.dependenciesOf key :=
  dependenciesOf_update (fun _ => rfl) fun _ => rfl

theorem dependency?_addDependent :
    (r.addDependent key other).dependency? ref = r.dependency? ref :=
  dependency?_update (fun _ => rfl) fun _ => rfl

theorem isResolvedAt_addDependent :
    (r.addDependent target other).isResolvedAt key = r.isResolvedAt key :=
  isResolvedAt_update (fun _ => rfl) fun _ => rfl

theorem dependentsOf_addDependent (h : (r.find? target).isSome) :
    (r.addDependent target other).dependentsOf key =
      if key = target then r.dependentsOf key ++ [other] else r.dependentsOf key := by
  obtain ⟨p, hp⟩ := Option.isSome_iff_exists.1 h
  have hfind : (r.addDependent target other).find? key = (r.find? key).map fun p =>
      if key = target then { p with requiredBy := p.requiredBy ++ [other] } else p :=
    find?_update fun _ => rfl
  rw [dependentsOf, hfind]
  by_cases hk : key = target
  · simp [dependentsOf, hk, hp]
  · simp [dependentsOf, hk]

theorem find?_markResolved (hp : r.find? key = some p) :
    (r.markResolved key).find? key = some { p with isResolved := true } := by
  rw [markResolved, find?_update (f := fun p => { p with isResolved := true }) fun _ => rfl, hp,
    Option.map_some, if_pos rfl]

theorem isSome_find?_markResolved :
    ((r.markResolved key).find? other).isSome = (r.find? other).isSome :=
  isSome_find?_update fun _ => rfl

theorem dependenciesOf_markResolved :
    (r.markResolved key).dependenciesOf other = r.dependenciesOf other :=
  dependenciesOf_update (fun _ => rfl) fun _ => rfl

theorem dependency?_markResolved : (r.markResolved key).dependency? ref = r.dependency? ref :=
  dependency?_update (fun _ => rfl) fun _ => rfl

theorem dependentsOf_markResolved :
    (r.markResolved key).dependentsOf other = r.dependentsOf other :=
  dependentsOf_update (fun _ => rfl) fun _ => rfl

theorem isResolvedAt_markResolved (h : (r.find? key).isSome) :
    (r.markResolved key).isResolvedAt other = (other == key || r.isResolvedAt other) := by
  obtain ⟨p, hp⟩ := Option.isSome_iff_exists.1 h
  have hfind : (r.markResolved key).find? other = (r.find? other).map fun p =>
      if other = key then { p with isResolved := true } else p := find?_update fun _ => rfl
  rw [isResolvedAt, hfind]
  by_cases hk : other = key
  · simp [hk, hp]
  · simp [isResolvedAt, hk]

/-- Only the package that is found is updated. -/
theorem update_congr (hr : r.Distinct) (h : ∀ p, r.find? key = some p → f p = g p) :
    r.update key f = r.update key g := by
  have hmap : (r.packages.map fun p => if p.manifest = key then f p else p) =
      r.packages.map fun p => if p.manifest = key then g p else p := by
    refine List.map_congr_left fun p hp => ?_
    split
    · next hkey => exact h p (hkey ▸ find?_of_mem hr hp)
    · rfl
  rw [update, hmap, update]

theorem update_eq_self (hr : r.Distinct) (h : ∀ p, r.find? key = some p → f p = p) :
    r.update key f = r := by
  rw [update_congr (g := id) hr h, update]
  simp

theorem update_update (hf : ∀ p, (f p).manifest = p.manifest) :
    (r.update key f).update key g = r.update key fun p => g (f p) := by
  simp only [update, List.map_map]
  congr 2
  funext p
  by_cases hkey : p.manifest = key <;> simp [hkey, hf]

/-- Marking a package again changes nothing. -/
theorem markResolved_eq_self (hr : r.Distinct) (h : r.isResolvedAt key = true) :
    r.markResolved key = r := by
  apply update_eq_self hr
  intro p hp
  rw [isResolvedAt_of_find? hp] at h
  simp [← h]

/-! ### Registering -/

theorem find?_add (hp : r.find? p.manifest = none) :
    (r.add p).find? key = if key = p.manifest then some p else r.find? key := by
  have hadd : (r.add p).find? key =
      (r.find? key).or (if p.manifest = key then some p else none) := by
    simp only [find?, add, List.find?_append, List.find?_singleton, beq_iff_eq]
  rw [hadd]
  by_cases hk : key = p.manifest
  · simp [hk, hp]
  · simp [hk, Ne.symm hk]

theorem distinct_add (h : r.Distinct) (hp : r.find? p.manifest = none) : (r.add p).Distinct := by
  have hnew := find?_eq_none.1 hp
  simp only [Distinct, add, List.map_append, List.map_cons, List.map_nil]
  refine h.append (List.nodup_singleton _) ?_
  intro a ha hb
  obtain ⟨q, hq, rfl⟩ := List.mem_map.1 ha
  exact hnew q hq (List.mem_singleton.1 hb)

theorem dependenciesOf_add (hp : r.find? p.manifest = none) : (r.add p).dependenciesOf key =
    if key = p.manifest then p.dependencies else r.dependenciesOf key := by
  rw [dependenciesOf, find?_add hp]
  split <;> rfl

theorem dependentsOf_add (hp : r.find? p.manifest = none) : (r.add p).dependentsOf key =
    if key = p.manifest then p.requiredBy else r.dependentsOf key := by
  rw [dependentsOf, find?_add hp]
  split <;> rfl

theorem isResolvedAt_add (hp : r.find? p.manifest = none) : (r.add p).isResolvedAt key =
    if key = p.manifest then p.isResolved else r.isResolvedAt key := by
  rw [isResolvedAt, find?_add hp]
  split <;> rfl

end Registry

end PascalWorkspace
