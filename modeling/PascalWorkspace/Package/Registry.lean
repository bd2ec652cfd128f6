import PascalWorkspace.Failure
import PascalWorkspace.Package.Basic

/-! The packages known so far, one for each manifest, in the order in which they were registered,
and an index of their names. A flag that an update sets is set on one package more, which bounds the
walks over the packages. -/
namespace PascalWorkspace

/-- Manifests by lower-cased name. -/
abbrev NameIndex := List (String × String)

namespace NameIndex

/-- Enters a manifest under a name, unless the name is taken. -/
def enter (index : NameIndex) (name key : String) : NameIndex :=
  if (index.lookup name).isSome then index else index ++ [(name, key)]

/-- Enters the package under its lower-cased name. -/
def enterPackage (index : NameIndex) (p : Package) : NameIndex :=
  index.enter (Text.lowercase p.name) p.manifest

end NameIndex

structure Registry where
  packages : List Package := []
  /-- Where names lead: each to the manifest that was the first to be registered under it. -/
  byName : NameIndex := []
  /-- Every manifest that was asked for, readable or not. -/
  requested : List String := []
  deriving DecidableEq, Repr

namespace Registry

def size (r : Registry) : Nat := r.packages.length

def find? (r : Registry) (key : String) : Option Package := r.packages.find? (·.manifest == key)

/-- The manifest that a name leads to, in letters of either case. -/
def lookup? (r : Registry) (name : String) : Option String := r.byName.lookup (Text.lowercase name)

def update (r : Registry) (key : String) (f : Package → Package) : Registry :=
  { r with packages := r.packages.map fun p => if p.manifest = key then f p else p }

/-- Registers a package that is not known yet. -/
def add (r : Registry) (p : Package) : Registry :=
  { r with packages := r.packages ++ [p], byName := r.byName.enterPackage p }

/-- Each dependency without a target, with the name of the package that has it. -/
def unresolved (r : Registry) : List (String × String) :=
  r.packages.flatMap fun p =>
    (p.dependencies.filter (!·.isResolved)).map fun d => (p.name, d.name)

/-- The number of packages with a property. -/
def count (r : Registry) (property : Package → Bool) : Nat := r.packages.countP property

theorem find?_mem {r : Registry} {key : String} {p : Package} (h : r.find? key = some p) :
    p ∈ r.packages := List.mem_of_find?_eq_some h

theorem find?_manifest {r : Registry} {key : String} {p : Package} (h : r.find? key = some p) :
    p.manifest = key := by simpa using List.find?_some h

theorem countP_lt_of_imp {α : Type} {f g : α → Bool} {l : List α} {a : α}
    (himp : ∀ x, g x = true → f x = true) (ha : a ∈ l) (hf : f a = true) (hg : g a = false) :
    l.countP g < l.countP f := by
  induction l with
  | nil => cases ha
  | cons x xs ih =>
    have hle : xs.countP g ≤ xs.countP f := List.countP_mono_left fun y _ => himp y
    simp only [List.countP_cons]
    obtain rfl | hmem := List.mem_cons.1 ha
    · simp [hf, hg]
      omega
    · have hlt := ih hmem
      cases hgx : g x with
      | false =>
        rw [if_neg Bool.false_ne_true]
        exact Nat.lt_of_lt_of_le hlt (Nat.le_add_right _ _)
      | true =>
        rw [if_pos rfl, if_pos (himp x hgx)]
        exact Nat.succ_lt_succ hlt

/-- An update that leaves a property alone leaves its count alone. -/
theorem count_update {r : Registry} {key : String} {f : Package → Package}
    {property : Package → Bool} (h : ∀ p, property (f p) = property p) :
    (r.update key f).count property = r.count property := by
  simp only [count, update, List.countP_map]
  congr 1
  funext p
  by_cases hp : p.manifest = key <;> simp [hp, h]

/-- An update that takes a property from the package it finds lowers its count. -/
theorem count_update_lt {r : Registry} {key : String} {f : Package → Package}
    {property : Package → Bool} {p : Package} (hfind : r.find? key = some p)
    (hp : property p = true) (h : ∀ q, property (f q) = false) :
    (r.update key f).count property < r.count property := by
  simp only [count, update, List.countP_map]
  refine countP_lt_of_imp ?_ (find?_mem hfind) hp ?_
  · intro q
    by_cases hq : q.manifest = key <;> simp [hq, h]
  · simp [find?_manifest hfind, h]

end Registry

end PascalWorkspace
