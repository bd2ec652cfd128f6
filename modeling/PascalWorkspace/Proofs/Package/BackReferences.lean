import PascalWorkspace.Proofs.Package.Provenance

/-! References between packages in both directions. A target that is found counts once on either
side, and a borrowed one only for the package that borrows it. -/
namespace PascalWorkspace

theorem countP_modify {α : Type} {P : α → Bool} {f : α → α} {l : List α} {index : Nat} {a : α}
    (ha : l[index]? = some a) (hP : P a = false) :
    (l.modify index f).countP P = l.countP P + if P (f a) then 1 else 0 := by
  induction l generalizing index with
  | nil => cases ha
  | cons b rest ih =>
    cases index with
    | zero =>
      obtain rfl : b = a := Option.some.inj ha
      rw [List.modify_zero_cons, List.countP_cons, List.countP_cons, hP, if_neg Bool.false_ne_true]
      rfl
    | succ index =>
      rw [List.modify_succ_cons, List.countP_cons, List.countP_cons, ih ha]
      omega

namespace Registry

variable {r s : Registry} {key target found : String} {ref : DependencyRef} {d : Dependency}
  {p t : Package} {scope : Scope}

/-- How many dependencies of a package lead to another. -/
def forward (r : Registry) (key target : String) : Nat :=
  (r.dependenciesOf key).countP fun d => d.target == some target

/-- How often a package is among those that were found to need another. -/
def backward (r : Registry) (key target : String) : Nat := (r.dependentsOf target).count key

theorem forward_of_find? (hp : r.find? key = some p) :
    r.forward key target = p.dependencies.countP fun d => d.target == some target := by
  rw [forward, dependenciesOf_of_find? hp]

theorem backward_of_find? (ht : r.find? target = some t) :
    r.backward key target = t.requiredBy.count key := by
  rw [backward, dependentsOf_of_find? ht]

/-- A package refers to no other when it is registered. -/
theorem Admits.forward (h : Admits r found s) : s.forward key target = r.forward key target := by
  cases h with
  | known => rfl
  | registered m hnew =>
    rw [Registry.forward, dependenciesOf_add hnew, Registry.forward]
    split
    · next hkey =>
      have hfind : r.find? key = none := hkey ▸ hnew
      rw [dependenciesOf, hfind]
      refine List.countP_eq_zero.2 fun d hd => ?_
      obtain ⟨q, -, rfl⟩ := List.mem_map.1 hd
      simp
    · rfl

theorem Admits.backward (h : Admits r found s) : s.backward key target = r.backward key target := by
  rw [Registry.backward, h.dependentsOf, Registry.backward]

theorem SameGraph.forward (h : SameGraph r s) : s.forward key target = r.forward key target := by
  rw [Registry.forward, h.dependenciesOf, Registry.forward]

theorem SameGraph.backward (h : SameGraph r s) :
    s.backward key target = r.backward key target := by
  rw [Registry.backward, h.dependentsOf, Registry.backward]

/-- A dependency without a target that gets one leads to one package more. -/
theorem forward_setTarget (hd : r.dependency? ref = some d) (hopen : d.target = none) :
    (r.setTarget ref found).forward key target =
      r.forward key target + if key = ref.manifest ∧ target = found then 1 else 0 := by
  rw [forward, dependenciesOf_setTarget, forward]
  by_cases hkey : key = ref.manifest
  · have hindex : (r.dependenciesOf key)[ref.index]? = some d := by
      rw [hkey]
      exact hd
    have hhit : ((d.withTarget found).target == some target) = decide (target = found) := by
      simp [Dependency.withTarget, Bool.beq_eq_decide_eq, eq_comm]
    rw [if_pos hkey, countP_modify hindex (by simp [hopen]), hhit]
    simp [hkey]
  · simp [hkey]

theorem forward_connect (hd : r.dependency? ref = some d) (hopen : d.target = none) :
    ((r.link ref found).markResolved found).forward key target =
      r.forward key target + if key = ref.manifest ∧ target = found then 1 else 0 := by
  rw [← forward_setTarget hd hopen, forward, dependenciesOf_markResolved, link_eq,
    dependenciesOf_addDependent, forward]

theorem backward_connect (hfound : (r.find? found).isSome) :
    ((r.link ref found).markResolved found).backward key target =
      r.backward key target + if key = ref.manifest ∧ target = found then 1 else 0 := by
  rw [backward, dependentsOf_connect hfound, backward]
  by_cases htarget : target = found
  · rw [if_pos htarget, List.count_append, List.count_singleton]
    simp [htarget, @eq_comm _ ref.manifest]
  · simp [htarget]

/-- A change adds as many references in one direction as in the other, borrowed targets apart. -/
theorem references_step (h : Step scope r s) (key target : String) : ∃ tied borrowed,
    s.forward key target = r.forward key target + tied + borrowed ∧
      s.backward key target = r.backward key target + tied ∧ (¬ scope.repairs → borrowed = 0) := by
  cases h with
  | request => exact ⟨0, 0, rfl, rfl, fun _ => rfl⟩
  | register _ h => exact ⟨0, 0, h.forward, h.backward, fun _ => rfl⟩
  | @mark other hother =>
    refine ⟨0, 0, ?_, ?_, fun _ => rfl⟩
    · rw [forward, dependenciesOf_markResolved]
      rfl
    · rw [backward, dependentsOf_markResolved]
      rfl
  | @connect q ref d found h hd hopen href =>
    refine ⟨if key = ref.manifest ∧ target = found then 1 else 0, 0, ?_, ?_, fun _ => rfl⟩
    · rw [forward_connect hd hopen, h.forward, Nat.add_zero]
    · rw [backward_connect h.isSome_find?, h.backward]
  | @borrow ref d found hscope hd hopen _ =>
    refine ⟨0, if key = ref.manifest ∧ target = found then 1 else 0, ?_, ?_, absurd hscope⟩
    · rw [forward_setTarget hd hopen, Nat.add_zero]
    · rw [backward, dependentsOf_setTarget]
      rfl
  | finish _ h => exact ⟨0, 0, h.forward, h.backward, fun _ => rfl⟩

theorem references_steps (h : Steps scope r s) (key target : String) : ∃ tied borrowed,
    s.forward key target = r.forward key target + tied + borrowed ∧
      s.backward key target = r.backward key target + tied ∧ (¬ scope.repairs → borrowed = 0) := by
  induction h with
  | refl => exact ⟨0, 0, rfl, rfl, fun _ => rfl⟩
  | tail _ h ih =>
    obtain ⟨tied, borrowed, hforward, hbackward, hnone⟩ := ih
    obtain ⟨tied', borrowed', hforward', hbackward', hnone'⟩ := references_step h key target
    refine ⟨tied + tied', borrowed + borrowed', ?_, ?_, fun hscope => ?_⟩
    · rw [hforward', hforward]
      omega
    · rw [hbackward', hbackward, Nat.add_assoc]
    · rw [hnone hscope, hnone' hscope]

/-! ### What has grown from nothing -/

section Grown

variable (h : Steps scope {} r)
include h

theorem backward_le_forward (key target : String) :
    r.backward key target ≤ r.forward key target := by
  obtain ⟨tied, borrowed, hforward, hbackward, -⟩ := references_steps h key target
  have hempty : ({} : Registry).backward key target = ({} : Registry).forward key target := rfl
  omega

theorem backward_eq_forward (hscope : ¬ scope.repairs) (key target : String) :
    r.backward key target = r.forward key target := by
  obtain ⟨tied, borrowed, hforward, hbackward, hnone⟩ := references_steps h key target
  have hempty : ({} : Registry).backward key target = ({} : Registry).forward key target := rfl
  have hborrowed := hnone hscope
  omega

/-- Every target is registered. -/
theorem isSome_find?_of_target (hd : r.dependency? ref = some d)
    (htarget : d.target = some target) : (r.find? target).isSome := by
  obtain ⟨q, -, -, hq⟩ := founded_steps h founded_empty ref d target hd htarget
  exact isSome_find?_of_requiredBy hq

/-- A package that was found to need another is registered, and the dependencies of both have been
looked for. -/
theorem isResolvedAt_of_requiredBy (hkey : r.RequiredBy target key) :
    r.isResolvedAt key = true ∧ r.isResolvedAt target = true := by
  have hr := sound_steps h sound_empty
  constructor
  · have hforward : 0 < r.forward key target :=
      (List.count_pos_iff.2 hkey).trans_le (backward_le_forward h key target)
    obtain ⟨d, hd, htarget⟩ := List.countP_pos_iff.1 hforward
    obtain ⟨index, hindex⟩ := List.mem_iff_getElem?.1 hd
    by_contra hnew
    have hnone := hr.targets ⟨key, index⟩ d (by simpa using hnew) hindex
    simp [hnone] at htarget
  · by_contra hnew
    rw [RequiredBy, hr.dependents target (by simpa using hnew)] at hkey
    cases hkey

end Grown

end Registry

end PascalWorkspace
