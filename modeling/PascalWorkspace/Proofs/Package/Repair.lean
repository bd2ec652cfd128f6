import PascalWorkspace.Proofs.Workspace

/-! A pass of repairs over some packages: what has a target at its end is settled by the registry
before the pass alone, in whatever order the packages are repaired, and a further repair finds
nothing to do. -/
namespace PascalWorkspace

namespace Registry

variable {r s : Registry} {key name target : String} {ref place : DependencyRef} {d e : Dependency}

/-- There is a dependency at a place, and it has no target. -/
def Unresolved (r : Registry) (ref : DependencyRef) : Prop :=
  ∃ d, r.dependency? ref = some d ∧ d.target = none

/-- The target that a repair finds for a dependency that has none. -/
def repairTarget? (r : Registry) (ref : DependencyRef) : Option String :=
  (r.dependency? ref).bind fun d =>
    if d.isResolved then none else r.borrowedTarget? ref.manifest d.name

/-- A registry has come from another by repairs: dependents, requirements and the targets found
before are the same, and other dependencies have borrowed only where something was known. -/
structure Repaired (r s : Registry) : Prop where
  dependents : ∀ key, s.dependentsOf key = r.dependentsOf key
  requirements : ∀ ref, (s.dependency? ref).map (·.toRequirement) =
    (r.dependency? ref).map (·.toRequirement)
  kept : ∀ ref d, r.dependency? ref = some d → d.target ≠ none → s.dependency? ref = some d
  known : ∀ ref e, s.dependency? ref = some e → e.target ≠ none → r.Knows ref.manifest e.name

/-- A dependency has a target if one is known before the pass. -/
def Settled (r s : Registry) (ref : DependencyRef) : Prop :=
  ∀ e, s.dependency? ref = some e → r.Knows ref.manifest e.name → e.target ≠ none

theorem knows_of_target (hd : r.dependency? ref = some d) (htarget : d.target ≠ none) :
    r.Knows ref.manifest d.name := by
  obtain ⟨target, htarget⟩ := Option.ne_none_iff_exists'.1 htarget
  exact ⟨ref.manifest, target, .refl, ref.index, d, hd, sameName_iff.2 rfl, htarget⟩

theorem Knows.of_dependent {other : String} (hother : r.Dependent key other)
    (h : r.Knows other name) : r.Knows key name := by
  obtain ⟨q, target, hq, hsupplies⟩ := h
  exact ⟨q, target, hother.trans hq, hsupplies⟩

theorem Knows.rename {name' : String} (h : r.Knows key name) (hname : sameName name name' = true) :
    r.Knows key name' := by
  obtain ⟨q, target, hq, index, d, hd, hd', htarget⟩ := h
  exact ⟨q, target, hq, index, d, hd, sameName_trans hd' hname, htarget⟩

theorem repaired_refl (r : Registry) : Repaired r r :=
  ⟨fun _ => rfl, fun _ => rfl, fun _ _ hd _ => hd, fun _ _ => knows_of_target⟩

/-- Merging and publishing repair nothing and undo no repair. -/
theorem SameGraph.repaired (h : SameGraph r s) : Repaired r s where
  dependents _ := h.dependentsOf
  requirements _ := by rw [h.dependency?]
  kept _ _ hd _ := h.dependency?.trans hd
  known _ _ he hne := knows_of_target (h.dependency?.symm.trans he) hne

theorem Repaired.exists_after (h : Repaired r s) (hd : r.dependency? ref = some d) :
    ∃ e, s.dependency? ref = some e ∧ e.toRequirement = d.toRequirement :=
  Option.map_eq_some_iff.1 ((h.requirements ref).trans (by rw [hd, Option.map_some]))

theorem Repaired.exists_before (h : Repaired r s) (he : s.dependency? ref = some e) :
    ∃ d, r.dependency? ref = some d ∧ d.toRequirement = e.toRequirement :=
  Option.map_eq_some_iff.1 ((h.requirements ref).symm.trans (by rw [he, Option.map_some]))

theorem Repaired.dependent_eq (h : Repaired r s) : s.Dependent = r.Dependent := by
  rw [Dependent, requiredBy_congr h.dependents, Dependent]

/-- Repairs make nothing known that was not known before. -/
theorem Repaired.knows_iff (h : Repaired r s) : s.Knows key name ↔ r.Knows key name := by
  constructor
  · rintro ⟨q, target, hq, index, d, hd, hname, htarget⟩
    rw [h.dependent_eq] at hq
    exact ((h.known _ d hd (by simp [htarget])).rename hname).of_dependent hq
  · rintro ⟨q, target, hq, index, d, hd, hname, htarget⟩
    have hd' := h.kept _ d hd (by simp [htarget])
    exact ⟨q, target, h.dependent_eq ▸ hq, index, d, hd', hname, htarget⟩

theorem repairTarget?_eq_some (h : r.repairTarget? ref = some target) :
    ∃ d, r.dependency? ref = some d ∧ d.target = none ∧
      r.borrowedTarget? ref.manifest d.name = some target := by
  obtain ⟨d, hd, hd'⟩ := Option.bind_eq_some_iff.1 h
  cases hres : d.isResolved with
  | true => simp [hres] at hd'
  | false => exact ⟨d, hd, by simpa [Dependency.isResolved] using hres, by simpa [hres] using hd'⟩

/-- A dependency that repair leaves alone is settled. -/
theorem Repaired.settled_of_none (h : Repaired r s) (hnone : s.repairTarget? ref = none) :
    Settled r s ref := by
  intro e he hknows htarget
  have hborrow : s.borrowedTarget? ref.manifest e.name = none := by
    simpa [repairTarget?, he, Dependency.isResolved, htarget] using hnone
  have hsome := isSome_borrowedTarget?.2 (h.knows_iff.2 hknows)
  simp [hborrow] at hsome

/-- Repair leaves a settled dependency alone. -/
theorem Repaired.none_of_settled (h : Repaired r s) (hsettled : Settled r s ref) :
    s.repairTarget? ref = none := by
  by_contra hne
  obtain ⟨target, htarget⟩ := Option.ne_none_iff_exists'.1 hne
  obtain ⟨d, hd, hopen, hborrow⟩ := repairTarget?_eq_some htarget
  have hknows : s.Knows ref.manifest d.name := isSome_borrowedTarget?.1 (by simp [hborrow])
  exact hsettled d hd (h.knows_iff.1 hknows) hopen

theorem Repaired.setTarget (h : Repaired r s) (htarget : s.repairTarget? ref = some target) :
    Repaired r (s.setTarget ref target) := by
  obtain ⟨e, he, hopen, hborrow⟩ := repairTarget?_eq_some htarget
  refine ⟨fun key => ?_, fun place => ?_, fun place d hd hne => ?_, fun place d hd hne => ?_⟩
  · rw [dependentsOf_setTarget, h.dependents]
  · rw [← h.requirements, dependency?_setTarget]
    split
    · rw [Option.map_map]
      rfl
    · rfl
  · have hd' := h.kept place d hd hne
    have hplace : place ≠ ref := by
      rintro rfl
      obtain rfl : e = d := Option.some.inj (he.symm.trans hd')
      exact hne hopen
    rwa [dependency?_setTarget, if_neg hplace]
  · rw [dependency?_setTarget] at hd
    split at hd
    · next hplace =>
      subst hplace
      obtain rfl : e.withTarget target = d := by simpa [he] using hd
      have hknows : s.Knows place.manifest e.name := isSome_borrowedTarget?.1 (by simp [hborrow])
      exact h.knows_iff.1 hknows
    · exact h.known place d hd hne

theorem settled_setTarget (he : s.dependency? ref = some e) :
    Settled r (s.setTarget ref target) ref := by
  intro d hd _
  rw [dependency?_setTarget, if_pos rfl, he] at hd
  obtain rfl : e.withTarget target = d := by simpa using hd
  simp [Dependency.withTarget]

theorem Settled.setTarget (h : Settled r s place) (he : s.dependency? ref = some e) :
    Settled r (s.setTarget ref target) place := by
  by_cases hplace : place = ref
  · rw [hplace]
    exact settled_setTarget he
  · intro d hd
    rw [dependency?_setTarget, if_neg hplace] at hd
    exact h d hd

end Registry

namespace Workspace

open Operation Registry

variable {r : Registry} {key : String} {ref place : DependencyRef} {w v : Workspace}
  {scope : Scope}

theorem outcome_repairDependency_of_none (h : w.registry.repairTarget? ref = none) :
    outcome (repairDependency ref) w = (.ok (), w) := by
  unfold repairDependency
  simp only [outcome_bind, outcome_get]
  cases hp : w.registry.find? ref.manifest with
  | none => rfl
  | some p =>
    cases hd : p.dependencies[ref.index]? with
    | none =>
      simp only [hd]
      rfl
    | some d =>
      rw [repairTarget?, dependency?_of_find? hp, hd, ← find?_manifest hp] at h
      simp only [hd]
      split
      · rfl
      · next hopen =>
        simp only [Option.bind_some, if_neg hopen] at h
        simp only [h]
        rfl

theorem outcome_repairDependency_of_some {target : String}
    (h : w.registry.repairTarget? ref = some target) :
    ∃ entry, outcome (repairDependency ref) w = (.ok (), { w with
      registry := w.registry.setTarget ref target
      log := w.log.push entry }) := by
  unfold repairDependency
  simp only [outcome_bind, outcome_get]
  obtain ⟨d, hd, hd'⟩ := Option.bind_eq_some_iff.1 h
  obtain ⟨p, hp, hindex⟩ := find?_of_dependency? hd
  rw [← find?_manifest hp] at hd'
  split at hd'
  · cases hd'
  · next hopen =>
    simp only [hp, hindex, if_neg hopen, hd']
    exact ⟨_, rfl⟩

/-- A relation that the borrowing of targets keeps is kept by repairs. -/
theorem keeps_repair_of_borrow {R : Workspace → Workspace → Prop} [IsPreorder Workspace R]
    (hborrow : ∀ (w : Workspace) (ref : DependencyRef) (target : String) (log : Log),
      w.registry.repairTarget? ref = some target →
        R w { w with registry := w.registry.setTarget ref target, log }) (key : String) :
    Keeps R (repair key) := by
  have hone (ref : DependencyRef) : Keeps R (repairDependency ref) := by
    intro w
    unfold after
    cases h : w.registry.repairTarget? ref with
    | none =>
      rw [outcome_repairDependency_of_none h]
      exact refl_of R w
    | some target =>
      obtain ⟨entry, hrun⟩ := outcome_repairDependency_of_some h
      rw [hrun]
      exact hborrow w ref target _ h
  refine keeps_bind keeps_get fun w => ?_
  split
  · exact keeps_pure ()
  · exact keeps_forM fun ref _ => hone ref

theorem keeps_repair (hscope : scope.repairs) (key : String) :
    Keeps (OnRegistry (Evolves scope)) (repair key) := by
  refine keeps_repair_of_borrow (fun w ref target log h => ?_) key
  obtain ⟨d, hd, hopen, htarget⟩ := repairTarget?_eq_some h
  exact evolves_of_step (.borrow hscope hd hopen htarget)

/-- Repairs of the chosen dependencies settle them, keep settled what is settled, and leave all
other dependencies alone. -/
structure Pass (r : Registry) (chosen : DependencyRef → Prop) (w v : Workspace) : Prop where
  repaired : Repaired r v.registry
  settled : ∀ place, chosen place ∨ Settled r w.registry place → Settled r v.registry place
  others : ∀ place, ¬ chosen place → v.registry.dependency? place = w.registry.dependency? place

/-- An action never fails and repairs the chosen dependencies. -/
def Repairs (r : Registry) (act : Action Unit) (chosen : DependencyRef → Prop) : Prop :=
  ∀ w, Repaired r w.registry → ∃ v, outcome act w = (.ok (), v) ∧ Pass r chosen w v

theorem repairs_repairDependency (r : Registry) (ref : DependencyRef) :
    Repairs r (repairDependency ref) (· = ref) := by
  intro w hw
  cases h : w.registry.repairTarget? ref with
  | none =>
    refine ⟨w, outcome_repairDependency_of_none h, hw, ?_, fun _ _ => rfl⟩
    rintro place (rfl | hplace)
    · exact hw.settled_of_none h
    · exact hplace
  | some target =>
    obtain ⟨entry, hrun⟩ := outcome_repairDependency_of_some h
    obtain ⟨d, hd, -⟩ := repairTarget?_eq_some h
    refine ⟨_, hrun, hw.setTarget h, ?_, fun place hplace => ?_⟩
    · rintro place (rfl | hplace)
      · exact settled_setTarget hd
      · exact hplace.setTarget hd
    · rw [dependency?_setTarget, if_neg hplace]

theorem repairs_forM {α : Type} {act : α → Action Unit} {chosen : α → DependencyRef → Prop}
    (h : ∀ a, Repairs r (act a) (chosen a)) (xs : List α) :
    Repairs r (xs.forM act) fun place => ∃ a ∈ xs, chosen a place := by
  induction xs with
  | nil => exact fun w hw => ⟨w, rfl, hw, by simp, fun _ _ => rfl⟩
  | cons a xs ih =>
    intro w hw
    obtain ⟨v, hv, hav⟩ := h a w hw
    obtain ⟨u, hu, hvu⟩ := ih v hav.repaired
    refine ⟨u, (outcome_bind_ok _ hv).trans hu, hvu.repaired, ?_, fun place hplace => ?_⟩
    · rintro place (⟨b, hb, hchosen⟩ | hplace)
      · obtain rfl | hb := List.mem_cons.1 hb
        · exact hvu.settled place (.inr (hav.settled place (.inl hchosen)))
        · exact hvu.settled place (.inl ⟨b, hb, hchosen⟩)
      · exact hvu.settled place (.inr (hav.settled place (.inr hplace)))
    · have hhead : ¬ chosen a place := fun ha => hplace ⟨a, List.mem_cons_self, ha⟩
      have htail : ¬ ∃ b ∈ xs, chosen b place :=
        fun ⟨b, hb, hchosen⟩ => hplace ⟨b, List.mem_cons_of_mem _ hb, hchosen⟩
      exact (hvu.others place htail).trans (hav.others place hhead)

theorem repairs_repair (r : Registry) (key : String) :
    Repairs r (repair key) (·.manifest = key) := by
  intro w hw
  have hnone {place : DependencyRef} (h : w.registry.dependency? place = none) :
      Settled r w.registry place := fun e he => by simp [h] at he
  cases hp : w.registry.find? key with
  | none =>
    refine ⟨w, by simp [repair, outcome_bind, hp], hw, ?_, fun _ _ => rfl⟩
    rintro place (rfl | hplace)
    · exact hnone (by simp [dependency?, dependenciesOf, hp])
    · exact hplace
  | some p =>
    obtain rfl := find?_manifest hp
    obtain ⟨v, hv, hwv⟩ := repairs_forM (repairs_repairDependency r) p.dependencyRefs w hw
    have hrun : outcome (repair p.manifest) w = (.ok (), v) := by
      simpa [repair, outcome_bind, hp] using hv
    refine ⟨v, hrun, hwv.repaired, ?_, fun place hplace => ?_⟩
    · rintro place (hkey | hplace)
      · by_cases hmem : place ∈ p.dependencyRefs
        · exact hwv.settled place (.inl ⟨place, hmem, rfl⟩)
        · refine hwv.settled place (.inr (hnone ?_))
          by_contra hsome
          exact hmem ((dependency?_isSome_iff hp).1 ⟨Option.isSome_iff_ne_none.2 hsome, hkey⟩)
      · exact hwv.settled place (.inr hplace)
    · apply hwv.others
      rintro ⟨ref, href, rfl⟩
      exact hplace (mem_dependencyRefs.1 href).1

/-- A repair of settled dependencies does nothing. -/
theorem outcome_repair_of_settled (hw : Repaired r w.registry)
    (h : ∀ place, place.manifest = key → Settled r w.registry place) :
    outcome (repair key) w = (.ok (), w) := by
  cases hp : w.registry.find? key with
  | none => simp [repair, outcome_bind, hp]
  | some p =>
    have hrefs (refs : List DependencyRef) (hall : ∀ ref ∈ refs, ref.manifest = key) :
        outcome (refs.forM repairDependency) w = (.ok (), w) := by
      induction refs with
      | nil => rfl
      | cons ref refs ih =>
        have hnone := hw.none_of_settled (h ref (hall ref List.mem_cons_self))
        refine (outcome_bind_ok _ (outcome_repairDependency_of_none hnone)).trans (ih ?_)
        exact fun place hplace => hall place (List.mem_cons_of_mem _ hplace)
    have hall := hrefs p.dependencyRefs fun ref href =>
      (mem_dependencyRefs.1 href).1.trans (find?_manifest hp)
    simpa [repair, outcome_bind, hp] using hall

/-- A repaired dependency has no target exactly when none was known before the pass. -/
theorem Pass.target_eq_none_iff {chosen : DependencyRef → Prop} {e : Dependency}
    (h : Pass r chosen w v) (hchosen : chosen ref) (he : v.registry.dependency? ref = some e) :
    e.target = none ↔ ¬ r.Knows ref.manifest e.name := by
  constructor
  · exact fun hopen hknows => h.settled ref (.inl hchosen) e he hknows hopen
  · intro hnot
    by_contra hne
    exact hnot (h.repaired.known ref e he hne)

/-- What has no target after a pass is settled by the registry before it. -/
theorem Pass.unresolved_iff {chosen : DependencyRef → Prop} (h : Pass w.registry chosen w v) :
    v.registry.Unresolved ref ↔ (¬ chosen ref ∧ w.registry.Unresolved ref) ∨ (chosen ref ∧
      ∃ d, w.registry.dependency? ref = some d ∧ ¬ w.registry.Knows ref.manifest d.name) := by
  by_cases hchosen : chosen ref
  · simp only [hchosen, not_true_eq_false, false_and, true_and, false_or]
    constructor
    · rintro ⟨e, he, hopen⟩
      obtain ⟨d, hd, hsame⟩ := h.repaired.exists_before he
      refine ⟨d, hd, ?_⟩
      rw [congrArg Requirement.name hsame]
      exact (h.target_eq_none_iff hchosen he).1 hopen
    · rintro ⟨d, hd, hnot⟩
      obtain ⟨e, he, hsame⟩ := h.repaired.exists_after hd
      rw [← congrArg Requirement.name hsame] at hnot
      exact ⟨e, he, (h.target_eq_none_iff hchosen he).2 hnot⟩
  · simp only [hchosen, not_false_eq_true, false_and, true_and, or_false]
    rw [Unresolved, h.others ref hchosen, Unresolved]

theorem pass_repairs (w : Workspace) (keys : List String) :
    ∃ v, outcome (keys.forM repair) w = (.ok (), v) ∧
      Pass w.registry (fun place => place.manifest ∈ keys) w v := by
  obtain ⟨v, hv, hpass⟩ := repairs_forM (repairs_repair w.registry) keys w (repaired_refl _)
  simp only [exists_eq_right'] at hpass
  exact ⟨v, hv, hpass⟩

theorem not_knows_iff {r : Registry} {key name : String} : ¬ r.Knows key name ↔
    ∀ q, r.Dependent key q → ∀ index d, r.dependency? ⟨q, index⟩ = some d →
      sameName d.name name = true → d.target = none := by
  constructor
  · intro hnot q hq index d hd hname
    by_contra hne
    obtain ⟨target, htarget⟩ := Option.ne_none_iff_exists'.1 hne
    exact hnot ⟨q, target, hq, index, d, hd, hname, htarget⟩
  · rintro hall ⟨q, target, hq, index, d, hd, hname, htarget⟩
    simp [hall q hq index d hd hname] at htarget

/-- A pass of repairs over some packages, in any order and with repetitions: a dependency of theirs
is left without a target exactly when no dependent of its package, of any degree, had one under that
name before; another order leaves the same dependencies without a target; and to repair one of the
packages again changes nothing. -/
theorem repairs_settle (w : Workspace) (keys : List String) :
    ∃ v, outcome (keys.forM repair) w = (.ok (), v) ∧
      (∀ ref d, ref.manifest ∈ keys → w.registry.dependency? ref = some d →
        ∃ e, v.registry.dependency? ref = some e ∧ e.toRequirement = d.toRequirement ∧
          (e.target = none ↔ ∀ q, w.registry.Dependent ref.manifest q → ∀ index c,
            w.registry.dependency? ⟨q, index⟩ = some c → sameName c.name d.name = true →
              c.target = none)) ∧
      (∀ order : List String, (∀ key, key ∈ order ↔ key ∈ keys) → ∀ ref,
        (after (order.forM repair) w).registry.Unresolved ref ↔ v.registry.Unresolved ref) ∧
      ∀ key ∈ keys, outcome (repair key) v = (.ok (), v) := by
  obtain ⟨v, hv, hpass⟩ := pass_repairs w keys
  refine ⟨v, hv, ?_, ?_, ?_⟩
  · intro ref d hkey hd
    obtain ⟨e, he, hsame⟩ := hpass.repaired.exists_after hd
    refine ⟨e, he, hsame, ?_⟩
    rw [hpass.target_eq_none_iff hkey he, not_knows_iff, congrArg Requirement.name hsame]
  · intro order horder ref
    obtain ⟨u, hu, hother⟩ := pass_repairs w order
    rw [after, hu, hother.unresolved_iff, hpass.unresolved_iff, horder]
  · intro key hkey
    refine outcome_repair_of_settled hpass.repaired ?_
    rintro place rfl
    exact hpass.settled place (.inl hkey)

/-- Two packages that require each other. The first misses two packages, of which the second has
found one. -/
def mutualPair : Workspace where
  registry := { packages := [
    { manifest := "a", name := "a", directory := "", paths := {}, requiredBy := ["b"],
      dependencies := [⟨⟨"x", "", false⟩, none⟩, ⟨⟨"y", "", false⟩, none⟩] },
    { manifest := "b", name := "b", directory := "", paths := {}, requiredBy := ["a"],
      dependencies := [⟨⟨"X", "", false⟩, some "t"⟩] }] }

theorem repairs_settle_mutualPair :
    "a" ∈ ["b", "a"] ∧
      mutualPair.registry.dependency? ⟨"a", 0⟩ = some ⟨⟨"x", "", false⟩, none⟩ ∧
      (∀ key, key ∈ ["a", "b", "a"] ↔ key ∈ ["b", "a"]) ∧
      ∃ v, outcome (["b", "a"].forM repair) mutualPair = (.ok (), v) ∧
        (∃ e, v.registry.dependency? ⟨"a", 0⟩ = some e ∧ e.target ≠ none) ∧
        ((after (["a", "b", "a"].forM repair) mutualPair).registry.Unresolved ⟨"a", 1⟩ ↔
          v.registry.Unresolved ⟨"a", 1⟩) ∧
        outcome (repair "a") v = (.ok (), v) := by
  have hmem : "a" ∈ ["b", "a"] := by decide
  have hd : mutualPair.registry.dependency? ⟨"a", 0⟩ = some ⟨⟨"x", "", false⟩, none⟩ := by decide
  have horder (key : String) : key ∈ ["a", "b", "a"] ↔ key ∈ ["b", "a"] := by simp; grind
  obtain ⟨v, hv, htargets, horders, hagain⟩ := repairs_settle mutualPair ["b", "a"]
  obtain ⟨e, he, -, hiff⟩ := htargets ⟨"a", 0⟩ _ hmem hd
  refine ⟨hmem, hd, horder, v, hv, ⟨e, he, fun hnone => ?_⟩, horders _ horder _, hagain "a" hmem⟩
  have hstep : mutualPair.registry.RequiredBy "a" "b" := by decide
  have hc : mutualPair.registry.dependency? ⟨"b", 0⟩ = some ⟨⟨"X", "", false⟩, some "t"⟩ := by
    decide
  cases hiff.1 hnone "b" (.single hstep) 0 _ hc (by decide)

end Workspace

end PascalWorkspace
