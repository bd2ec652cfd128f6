import Mathlib.Data.List.Forall2
import PascalWorkspace.Define.Publication
import PascalWorkspace.Package.Merge
import PascalWorkspace.Package.Repair

/-! Registries that correspond package by package. The names of packages may be spelled differently
as long as letters of either case count for the same; all that is found out by following names is
then the same on both sides. -/
namespace PascalWorkspace

/-- In what two registries may differ. -/
structure Likeness where
  /-- The names that stand for one another. -/
  names : String → String → Prop
  same : ∀ a b, names a b → Text.lowercase a = Text.lowercase b
  /-- The manifests that may be registered. -/
  keys : String → Prop

/-- Names in letters of either case stand for one another, and every manifest may be registered. -/
def Likeness.caseless : Likeness where
  names a b := Text.lowercase a = Text.lowercase b
  same _ _ h := h
  keys _ := True

variable {L : Likeness}

structure Requirement.Alike (L : Likeness) (a b : Requirement) : Prop where
  name : L.names a.name b.name
  hint : a.hint = b.hint
  prefer : a.prefer = b.prefer

structure Manifest.Alike (L : Likeness) (m n : Manifest) : Prop where
  name : L.names m.name n.name
  directory : m.directory = n.directory
  paths : m.paths = n.paths
  requirements : List.Forall₂ (Requirement.Alike L) m.requirements n.requirements

structure Dependency.Alike (L : Likeness) (d e : Dependency) : Prop extends
    Requirement.Alike L d.toRequirement e.toRequirement where
  target : d.target = e.target

structure Package.Alike (L : Likeness) (p q : Package) : Prop where
  key : L.keys p.manifest
  manifest : p.manifest = q.manifest
  name : L.names p.name q.name
  directory : p.directory = q.directory
  paths : p.paths = q.paths
  dependencies : List.Forall₂ (Dependency.Alike L) p.dependencies q.dependencies
  requiredBy : p.requiredBy = q.requiredBy
  mergedPaths : p.mergedPaths = q.mergedPaths
  isResolved : p.isResolved = q.isResolved
  isMerged : p.isMerged = q.isMerged
  isPublished : p.isPublished = q.isPublished

theorem Likeness.sameName_eq (L : Likeness) {a b c d : String} (hab : L.names a b)
    (hcd : L.names c d) : sameName a c = sameName b d := by
  rw [sameName, sameName, L.same a b hab, L.same c d hcd]

/-- Two lists that correspond are searched with the same success. -/
theorem rel_find? {α β : Type} {R : α → β → Prop} {f : α → Bool} {g : β → Bool} {xs : List α}
    {ys : List β} (h : List.Forall₂ R xs ys) (hfg : ∀ x y, R x y → f x = g y) :
    Option.Rel R (xs.find? f) (ys.find? g) := by
  induction h with
  | nil => exact .none
  | @cons x y _ _ hxy _ ih =>
    cases hx : f x with
    | true =>
      rw [List.find?_cons_of_pos hx, List.find?_cons_of_pos ((hfg x y hxy).symm.trans hx)]
      exact .some hxy
    | false =>
      rw [List.find?_cons_of_neg (by simp [hx]),
        List.find?_cons_of_neg (by simp [← hfg x y hxy, hx])]
      exact ih

theorem rel_getElem? {α β : Type} {R : α → β → Prop} {xs : List α} {ys : List β}
    (h : List.Forall₂ R xs ys) (index : Nat) : Option.Rel R xs[index]? ys[index]? := by
  induction h generalizing index with
  | nil => exact .none
  | cons hxy _ ih =>
    cases index with
    | zero => exact .some hxy
    | succ index => exact ih index

theorem forall₂_modify {α β : Type} {R : α → β → Prop} {f : α → α} {g : β → β} {xs : List α}
    {ys : List β} (h : List.Forall₂ R xs ys) (hfg : ∀ x y, R x y → R (f x) (g y)) (index : Nat) :
    List.Forall₂ R (xs.modify index f) (ys.modify index g) := by
  induction h generalizing index with
  | nil => cases index <;> exact .nil
  | cons hxy hrest ih =>
    cases index with
    | zero => exact .cons (hfg _ _ hxy) hrest
    | succ index => exact .cons hxy (ih index)

namespace Package

variable {p q : Package} {name name' : String}

theorem alike_ofManifest {key : String} {m n : Manifest} (hkey : L.keys key)
    (h : Manifest.Alike L m n) : (ofManifest key m).Alike L (ofManifest key n) where
  key := hkey
  manifest := rfl
  name := h.name
  directory := h.directory
  paths := h.paths
  dependencies := by
    rw [ofManifest, ofManifest, List.forall₂_map_left_iff, List.forall₂_map_right_iff]
    exact h.requirements.imp fun _ _ hab => ⟨hab, rfl⟩
  requiredBy := rfl
  mergedPaths := rfl
  isResolved := rfl
  isMerged := rfl
  isPublished := rfl

theorem Alike.targets (h : p.Alike L q) : p.targets = q.targets := by
  rw [Package.targets, Package.targets, ← List.forall₂_eq_eq_eq]
  refine List.rel_filterMap (fun d e hde => ?_) h.dependencies
  rw [hde.target]
  cases e.target with
  | none => exact .none
  | some target => exact .some rfl

theorem Alike.dependencyRefs (h : p.Alike L q) : p.dependencyRefs = q.dependencyRefs := by
  rw [Package.dependencyRefs, Package.dependencyRefs, h.dependencies.length_eq, h.manifest]

theorem Alike.targetOf? (h : p.Alike L q) (hname : L.names name name') :
    p.targetOf? name = q.targetOf? name' := by
  have hfind : Option.Rel (Dependency.Alike L)
      (p.dependencies.find? fun d => d.isResolved && sameName d.name name)
      (q.dependencies.find? fun d => d.isResolved && sameName d.name name') := by
    refine rel_find? h.dependencies fun d e hde => ?_
    rw [Dependency.isResolved, Dependency.isResolved, hde.target, L.sameName_eq hde.name hname]
  rw [Package.targetOf?, Package.targetOf?]
  generalize p.dependencies.find? _ = found at hfind ⊢
  generalize q.dependencies.find? _ = found' at hfind ⊢
  cases hfind with
  | none => rfl
  | some hde => exact hde.target

theorem Alike.withTarget (h : p.Alike L q) (index : Nat) (target : String) :
    (p.withTarget index target).Alike L (q.withTarget index target) :=
  { h with
    dependencies := by
      apply forall₂_modify h.dependencies
      exact fun _ _ hde => ⟨hde.toAlike, rfl⟩ }

end Package

/-! ### Registries -/

/-- The same packages in the same order, to which the same names lead. Which manifests were asked for
in vain does not matter. -/
structure Registry.Alike (L : Likeness) (r s : Registry) : Prop where
  packages : List.Forall₂ (Package.Alike L) r.packages s.packages
  byName : r.byName = s.byName

namespace Registry

variable {r s : Registry} {f g : Package → Package} {q : Package} {key name name' : String}

theorem Alike.size (h : r.Alike L s) : r.size = s.size := h.packages.length_eq

theorem Alike.find? (h : r.Alike L s) (key : String) :
    Option.Rel (Package.Alike L) (r.find? key) (s.find? key) :=
  rel_find? h.packages fun p q hpq => by rw [hpq.manifest]

theorem Alike.exists_find? {p : Package} (h : r.Alike L s) (hp : r.find? key = some p) :
    ∃ q, s.find? key = some q ∧ p.Alike L q := by
  have hfind := h.find? key
  rw [hp] at hfind
  generalize s.find? key = found at hfind ⊢
  cases hfind with
  | some hpq => exact ⟨_, rfl, hpq⟩

theorem Alike.find?_eq_none (h : r.Alike L s) (hnone : r.find? key = none) :
    s.find? key = none := by
  have hfind := h.find? key
  rw [hnone] at hfind
  generalize s.find? key = found at hfind ⊢
  cases hfind with
  | none => rfl

theorem Alike.lookup? (h : r.Alike L s) (hname : L.names name name') :
    r.lookup? name = s.lookup? name' := by
  rw [Registry.lookup?, h.byName, L.same _ _ hname, Registry.lookup?]

theorem Alike.choosePath {d e : Dependency} (h : r.Alike L s) (hde : d.Alike L e) :
    r.choosePath d = s.choosePath e := by
  rw [Registry.choosePath, Registry.choosePath, Registry.namedPath, Registry.namedPath,
    h.lookup? hde.name, hde.prefer, hde.hint]

theorem Alike.update (h : r.Alike L s) (key : String)
    (hfg : ∀ p q : Package, p.Alike L q → (f p).Alike L (g q)) :
    (r.update key f).Alike L (s.update key g) := by
  refine ⟨?_, h.byName⟩
  rw [Registry.update, Registry.update, List.forall₂_map_left_iff, List.forall₂_map_right_iff]
  refine h.packages.imp fun p q hpq => ?_
  rw [← hpq.manifest]
  split
  · exact hfg p q hpq
  · exact hpq

theorem Alike.add {p q : Package} (h : r.Alike L s) (hpq : p.Alike L q) :
    (r.add p).Alike L (s.add q) where
  packages := List.rel_append h.packages (.cons hpq .nil)
  byName := by
    rw [Registry.add, Registry.add, h.byName, NameIndex.enterPackage, NameIndex.enterPackage,
      L.same _ _ hpq.name, hpq.manifest]

theorem Alike.link (h : r.Alike L s) (ref : DependencyRef) (target : String) :
    (r.link ref target).Alike L (s.link ref target) := by
  have htied := h.update ref.manifest fun p q hpq => hpq.withTarget ref.index target
  exact htied.update target fun p q hpq => { hpq with requiredBy := by rw [hpq.requiredBy] }

theorem Alike.markResolved (h : r.Alike L s) (key : String) :
    (r.markResolved key).Alike L (s.markResolved key) :=
  h.update key fun _ _ hpq => { hpq with isResolved := rfl }

theorem Alike.searchTarget (h : r.Alike L s) (hname : L.names name name')
    (met pending : List String) :
    r.searchTarget name met pending = s.searchTarget name' met pending := by
  fun_induction Registry.searchTarget r name met pending with
  | case1 met => rw [Registry.searchTarget]
  | case2 met key rest hmet ih =>
    rw [searchTarget_of_met hmet]
    exact ih
  | case3 met key rest hmet hfind ih =>
    rw [searchTarget_of_unknown hmet (h.find?_eq_none hfind)]
    exact ih
  | case4 met key rest hmet p hfind target htarget =>
    obtain ⟨q, hq, hpq⟩ := h.exists_find? hfind
    rw [searchTarget_of_known hmet hq, ← hpq.targetOf? hname, htarget]
  | case5 met key rest hmet p hfind htarget ih =>
    obtain ⟨q, hq, hpq⟩ := h.exists_find? hfind
    rw [searchTarget_of_known hmet hq, ← hpq.targetOf? hname, htarget, ← hpq.requiredBy]
    exact ih

/-- Where every name may stand for itself, a registry corresponds to itself. -/
theorem alike_self (hnames : ∀ a, L.names a a) (hr : ∀ p ∈ r.packages, L.keys p.manifest) :
    r.Alike L r where
  packages := List.forall₂_same.2 fun p hp => ⟨hr p hp, rfl, hnames _, rfl, rfl,
    List.forall₂_same.2 fun _ _ => ⟨⟨hnames _, rfl, rfl⟩, rfl⟩, rfl, rfl, rfl, rfl, rfl⟩
  byName := rfl

/-! ### Merging and publishing -/

theorem Alike.beginMerge (h : r.Alike L s) (key : String) :
    (r.beginMerge key).Alike L (s.beginMerge key) :=
  h.update key fun _ _ hpq => { hpq with isMerged := rfl, mergedPaths := hpq.paths }

theorem Alike.appendPaths (h : r.Alike L s) (key target : String) :
    (r.appendPaths key target).Alike L (s.appendPaths key target) := by
  unfold Registry.appendPaths
  have hfind := h.find? target
  generalize r.find? target = found at hfind ⊢
  generalize s.find? target = found' at hfind ⊢
  cases hfind with
  | none => exact h
  | some hfound =>
    apply h.update key
    exact fun _ _ hpq => { hpq with mergedPaths := by rw [hpq.mergedPaths, hfound.mergedPaths] }

theorem mergeTasks_congr {p q : Package} (hpq : p.Alike L q) : mergeTasks p = mergeTasks q := by
  rw [mergeTasks, mergeTasks, hpq.targets, hpq.manifest]

theorem Alike.mergeAll (h : r.Alike L s) (tasks : List MergeTask) :
    (r.mergeAll tasks).Alike L (s.mergeAll tasks) := by
  fun_induction Registry.mergeAll r tasks generalizing s with
  | case1 r =>
    rw [Registry.mergeAll]
    exact h
  | case2 r key target rest ih =>
    rw [Registry.mergeAll]
    exact ih (h.appendPaths key target)
  | case3 r key rest hfind ih =>
    rw [mergeAll_of_unknown (h.find?_eq_none hfind)]
    exact ih h
  | case4 r key rest p hfind hp ih =>
    obtain ⟨q, hq, hpq⟩ := h.exists_find? hfind
    rw [mergeAll_of_known hq, if_pos (hpq.isMerged.symm.trans hp)]
    exact ih h
  | case5 r key rest p hfind hp ih =>
    obtain ⟨q, hq, hpq⟩ := h.exists_find? hfind
    rw [mergeAll_of_known hq, if_neg (by rwa [← hpq.isMerged]), ← mergeTasks_congr hpq]
    exact ih (h.beginMerge key)

theorem Alike.markPublished (h : r.Alike L s) (key : String) :
    (r.markPublished key).Alike L (s.markPublished key) :=
  h.update key fun _ _ hpq => { hpq with isPublished := rfl }

end Registry

/-! ### Defines -/

/-- The names of packages, which are shown in the names of their nodes, may be spelled differently.
-/
inductive DefineNode.Alike (L : Likeness) : DefineNode → DefineNode → Prop where
  | same (n : DefineNode) : Alike L n n
  | package {p q : Package} (hpq : p.Alike L q) : Alike L p.node q.node

def DefineTree.Alike (L : Likeness) (t u : DefineTree) : Prop :=
  List.Forall₂ (DefineNode.Alike L) t.nodes u.nodes

theorem DefineTree.Alike.add {t u : DefineTree} {m n : DefineNode} (h : t.Alike L u)
    (hmn : m.Alike L n) : (t.add m).Alike L (u.add n) := List.rel_append h (.cons hmn .nil)

theorem DefineNode.Alike.directory {m n : DefineNode} (h : m.Alike L n) :
    m.directory = n.directory ∧ m.defines = n.defines := by
  cases h with
  | same => exact ⟨rfl, rfl⟩
  | package hpq =>
    refine ⟨hpq.directory, ?_⟩
    rw [Package.node, Package.node, hpq.mergedPaths]

namespace Registry

variable {r s : Registry} {t u : DefineTree} {q : Package} {key : String} {rest : List String}

theorem Alike.publishAll (h : r.Alike L s) (htree : t.Alike L u) (pending : List String) :
    (r.publishAll t pending).1.Alike L (s.publishAll u pending).1 ∧
      (r.publishAll t pending).2.Alike L (s.publishAll u pending).2 := by
  fun_induction Registry.publishAll r t pending generalizing s u with
  | case1 r t =>
    rw [Registry.publishAll]
    exact ⟨h, htree⟩
  | case2 r t key rest hfind ih =>
    rw [publishAll_of_unknown (h.find?_eq_none hfind)]
    exact ih h htree
  | case3 r t key rest p hfind hp ih =>
    obtain ⟨q, hq, hpq⟩ := h.exists_find? hfind
    rw [publishAll_of_known hq, if_pos (hpq.isPublished.symm.trans hp)]
    exact ih h htree
  | case4 r t key rest p hfind hp ih =>
    obtain ⟨q, hq, hpq⟩ := h.exists_find? hfind
    rw [publishAll_of_known hq, if_neg (by rwa [← hpq.isPublished]), ← hpq.targets]
    exact ih (h.markPublished key) (htree.add (.package hpq))

end Registry

/-! ### Registries that are the same -/

/-- Nothing is spelled differently. -/
def Likeness.exact (keys : String → Prop) : Likeness where
  names := Eq
  same _ _ h := congrArg Text.lowercase h
  keys := keys

section Exact

variable {keys : String → Prop}

theorem Requirement.Alike.eq {a b : Requirement} (h : a.Alike (.exact keys) b) : a = b := by
  obtain ⟨name, hint, prefer⟩ := a
  obtain ⟨rfl, rfl, rfl⟩ := h
  rfl

theorem Dependency.Alike.eq {d e : Dependency} (h : d.Alike (.exact keys) e) : d = e := by
  obtain ⟨requirement, target⟩ := d
  obtain ⟨requirement', target'⟩ := e
  have hrequirement : requirement = requirement' := h.toAlike.eq
  have htarget : target = target' := h.target
  rw [hrequirement, htarget]

theorem Package.Alike.eq {p q : Package} (h : p.Alike (.exact keys) q) : p = q := by
  have hdependencies : p.dependencies = q.dependencies := by
    rw [← List.forall₂_eq_eq_eq]
    exact h.dependencies.imp fun _ _ => Dependency.Alike.eq
  obtain ⟨manifest, name, directory, paths, dependencies, requiredBy, mergedPaths⟩ := p
  obtain ⟨-, rfl, rfl, rfl, rfl, -, rfl, rfl, rfl, rfl, rfl⟩ := h
  obtain rfl : dependencies = _ := hdependencies
  rfl

theorem Registry.Alike.eq {r s : Registry} (h : r.Alike (.exact keys) s) :
    r.packages = s.packages := by
  rw [← List.forall₂_eq_eq_eq]
  exact h.packages.imp fun _ _ => Package.Alike.eq

theorem DefineTree.Alike.eq {t u : DefineTree} (h : t.Alike (.exact keys) u) : t = u := by
  refine congrArg DefineTree.mk ?_
  rw [← List.forall₂_eq_eq_eq]
  refine h.imp fun m n hmn => ?_
  cases hmn with
  | same => rfl
  | package hpq => rw [hpq.eq]

theorem Manifest.alike_exact (m : Manifest) : m.Alike (.exact keys) m :=
  ⟨rfl, rfl, rfl, List.forall₂_same.2 fun _ _ => ⟨rfl, rfl, rfl⟩⟩

theorem Registry.alike_exact {r : Registry} (hr : ∀ p ∈ r.packages, keys p.manifest) :
    r.Alike (.exact keys) r := Registry.alike_self (fun _ => rfl) hr

theorem DefineTree.alike_exact (t : DefineTree) : t.Alike (.exact keys) t :=
  List.forall₂_same.2 fun n _ => .same n

end Exact

end PascalWorkspace
