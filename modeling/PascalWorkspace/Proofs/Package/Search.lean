import Mathlib.Data.Set.Insert
import Mathlib.Logic.Relation
import PascalWorkspace.Package.Repair
import PascalWorkspace.Proofs.Package.Registry

/-! The search for a target to borrow: it finds one exactly when some package among the dependents
has one, however the dependents are connected. -/
namespace PascalWorkspace

theorem sameName_iff {a b : String} :
    sameName a b = true ↔ Text.lowercase a = Text.lowercase b := by
  simp [sameName]

theorem sameName_trans {a b c : String} (hab : sameName a b = true) (hbc : sameName b c = true) :
    sameName a c = true := sameName_iff.2 ((sameName_iff.1 hab).trans (sameName_iff.1 hbc))

namespace Package

variable {p : Package} {name target : String}

theorem targetOf?_eq_some (h : p.targetOf? name = some target) :
    ∃ d ∈ p.dependencies, sameName d.name name = true ∧ d.target = some target := by
  obtain ⟨d, hd, htarget⟩ := Option.bind_eq_some_iff.1 h
  have hpred := List.find?_some hd
  rw [Bool.and_eq_true] at hpred
  exact ⟨d, List.mem_of_find?_eq_some hd, hpred.2, htarget⟩

theorem targetOf?_eq_none (h : p.targetOf? name = none) {d : Dependency} (hd : d ∈ p.dependencies)
    (hname : sameName d.name name = true) : d.target = none := by
  by_contra hne
  have hres : d.isResolved = true := Option.isSome_iff_ne_none.2 hne
  cases hfind : p.dependencies.find? fun d => d.isResolved && sameName d.name name with
  | none => simpa [hres, hname] using List.find?_eq_none.1 hfind d hd
  | some e =>
    have he := List.find?_some hfind
    rw [Bool.and_eq_true, Dependency.isResolved, Option.isSome_iff_exists] at he
    obtain ⟨⟨target, htarget⟩, -⟩ := he
    simp [targetOf?, hfind, htarget] at h

end Package

namespace Registry

variable {r s : Registry} {key name target : String}

/-- A package was found to need another. -/
def RequiredBy (r : Registry) (key dependent : String) : Prop := dependent ∈ r.dependentsOf key

instance (r : Registry) (key dependent : String) : Decidable (r.RequiredBy key dependent) :=
  inferInstanceAs (Decidable (dependent ∈ r.dependentsOf key))

theorem requiredBy_congr (h : ∀ key, s.dependentsOf key = r.dependentsOf key) :
    s.RequiredBy = r.RequiredBy := by
  funext key dependent
  rw [RequiredBy, h, RequiredBy]

theorem isSome_find?_of_requiredBy (h : r.RequiredBy key target) : (r.find? key).isSome := by
  by_contra hnone
  simp [RequiredBy, dependentsOf, Option.not_isSome_iff_eq_none.1 hnone] at h

/-- A package requires another directly or through others, or is that other itself. -/
abbrev Dependent (r : Registry) : String → String → Prop := Relation.ReflTransGen r.RequiredBy

/-- A package has a target for a dependency of a name, in letters of either case. -/
def Supplies (r : Registry) (key name target : String) : Prop :=
  ∃ index d, r.dependency? ⟨key, index⟩ = some d ∧ sameName d.name name = true ∧
    d.target = some target

/-- A package or one of its dependents has a target for a dependency of a name. -/
def Knows (r : Registry) (key name : String) : Prop :=
  ∃ q target, r.Dependent key q ∧ r.Supplies q name target

theorem supplies_of_targetOf? {p : Package} (hp : r.find? key = some p)
    (h : p.targetOf? name = some target) : r.Supplies key name target := by
  obtain ⟨d, hd, hname, htarget⟩ := Package.targetOf?_eq_some h
  obtain ⟨index, hdependency⟩ := exists_dependency?_of_mem hp hd
  exact ⟨index, d, hdependency, hname, htarget⟩

theorem not_supplies_of_targetOf? {p : Package} (hp : r.find? key = some p)
    (h : p.targetOf? name = none) : ¬ r.Supplies key name target := by
  rintro ⟨index, d, hd, hname, htarget⟩
  rw [dependency?_of_find? hp] at hd
  simp [Package.targetOf?_eq_none h (List.mem_of_getElem? hd) hname] at htarget

theorem dependent_of_search {met pending : List String}
    (h : r.searchTarget name met pending = some target) :
    ∃ key ∈ pending, ∃ q, r.Dependent key q ∧ r.Supplies q name target := by
  fun_induction searchTarget r name met pending with
  | case1 met => cases h
  | case2 met key rest hmet ih =>
    obtain ⟨k, hk, found⟩ := ih h
    exact ⟨k, List.mem_cons_of_mem _ hk, found⟩
  | case3 met key rest hmet hfind ih =>
    obtain ⟨k, hk, found⟩ := ih h
    exact ⟨k, List.mem_cons_of_mem _ hk, found⟩
  | case4 met key rest hmet p hfind t htarget =>
    obtain rfl : t = target := by simpa using h
    exact ⟨key, List.mem_cons_self, key, .refl, supplies_of_targetOf? hfind htarget⟩
  | case5 met key rest hmet p hfind htarget ih =>
    obtain ⟨k, hk, q, hq, found⟩ := ih h
    obtain hk | hk := List.mem_append.1 hk
    · have hstep : r.RequiredBy key k := by rwa [RequiredBy, dependentsOf_of_find? hfind]
      exact ⟨key, List.mem_cons_self, q, .head hstep hq, found⟩
    · exact ⟨k, List.mem_cons_of_mem _ hk, q, hq, found⟩

/-- A search in vain leaves behind a set of packages that holds everything pending, is closed under
dependents but for what had been met before, and has no target to offer. -/
theorem closed_of_search {met pending : List String} (h : r.searchTarget name met pending = none) :
    ∃ seen : Set String, (∀ key ∈ met, key ∈ seen) ∧ (∀ key ∈ pending, key ∈ seen) ∧
      ∀ key ∈ seen, key ∉ met → (∀ target, ¬ r.Supplies key name target) ∧
        ∀ q, r.RequiredBy key q → q ∈ seen := by
  fun_induction searchTarget r name met pending with
  | case1 met => exact ⟨{key | key ∈ met}, by simp, by simp, by simp +contextual⟩
  | case2 met key rest hmet ih =>
    obtain ⟨seen, hall, hpending, hclosed⟩ := ih h
    refine ⟨seen, hall, ?_, hclosed⟩
    simpa using ⟨hall key (by simpa using hmet), hpending⟩
  | case3 met key rest hmet hfind ih =>
    obtain ⟨seen, hall, hpending, hclosed⟩ := ih h
    refine ⟨insert key seen, fun k hk => .inr (hall k hk), ?_, ?_⟩
    · intro k hk
      obtain rfl | hk := List.mem_cons.1 hk
      · exact .inl rfl
      · exact .inr (hpending k hk)
    · rintro k (rfl | hk) hnot
      · simp [Supplies, RequiredBy, dependency?, dependenciesOf, dependentsOf, hfind]
      · exact ⟨(hclosed k hk hnot).1, fun q hq => .inr ((hclosed k hk hnot).2 q hq)⟩
  | case4 met key rest hmet p hfind t htarget => cases h
  | case5 met key rest hmet p hfind htarget ih =>
    obtain ⟨seen, hall, hpending, hclosed⟩ := ih h
    refine ⟨seen, fun k hk => hall k (List.mem_cons_of_mem _ hk), ?_, ?_⟩
    · intro k hk
      obtain rfl | hk := List.mem_cons.1 hk
      · exact hall k List.mem_cons_self
      · exact hpending k (List.mem_append_right _ hk)
    · intro k hk hnot
      by_cases heq : k = key
      · subst heq
        refine ⟨fun _ => not_supplies_of_targetOf? hfind htarget, ?_⟩
        intro q hq
        rw [RequiredBy, dependentsOf_of_find? hfind] at hq
        exact hpending q (List.mem_append_left _ hq)
      · exact hclosed k hk (by simp [heq, hnot])

theorem supplies_of_borrowedTarget? (h : r.borrowedTarget? key name = some target) :
    ∃ q, r.Dependent key q ∧ r.Supplies q name target := by
  obtain ⟨k, hk, found⟩ := dependent_of_search h
  rwa [List.mem_singleton.1 hk] at found

/-- A target is found to borrow exactly when the package or a dependent of it has one. -/
theorem isSome_borrowedTarget? : (r.borrowedTarget? key name).isSome ↔ r.Knows key name := by
  constructor
  · intro h
    obtain ⟨target, htarget⟩ := Option.isSome_iff_exists.1 h
    obtain ⟨q, hq, found⟩ := supplies_of_borrowedTarget? htarget
    exact ⟨q, target, hq, found⟩
  · rintro ⟨q, target, hq, found⟩
    by_contra hnone
    obtain ⟨seen, -, hpending, hclosed⟩ :=
      closed_of_search (Option.not_isSome_iff_eq_none.1 hnone)
    have hseen (k : String) (hk : r.Dependent key k) : k ∈ seen := by
      induction hk with
      | refl => exact hpending key (by simp)
      | tail _ hstep ih => exact (hclosed _ ih (by simp)).2 _ hstep
    exact (hclosed q (hseen q hq) (by simp)).1 target found

end Registry

end PascalWorkspace
