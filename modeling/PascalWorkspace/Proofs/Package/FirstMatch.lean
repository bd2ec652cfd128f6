import PascalWorkspace.Proofs.Package.Borrow
import PascalWorkspace.Proofs.Package.DepthFirst

/-! What a repair finds in any graph: the search for a target asks a package and then those that
require it, in the order of a depth-first search, and takes the first target that one of them has.
What the package itself has borrowed before makes no difference. -/
namespace PascalWorkspace

namespace Registry

variable {r : Registry} {key other name target : String} {p : Package} {d : Dependency} {i : Nat}
  {ds : List Dependency} {order : List String}

/-- There is no package of this manifest. -/
def Unknown (r : Registry) (key : String) : Prop := r.find? key = none

instance (r : Registry) (key : String) : Decidable (r.Unknown key) :=
  inferInstanceAs (Decidable (r.find? key = none))

/-- The packages that a search has not met are asked in depth-first order. -/
theorem searchTarget_of_depthFirst {marked : String → Prop} {pending : List String}
    (h : DepthFirst r.dependentsOf marked pending order) (met rest : List String)
    (hmarked : ∀ x, marked x ↔ x ∈ met ∨ r.Unknown x) :
    r.searchTarget name met (pending ++ rest) =
      (order.findSome? (r.targetAt? · name)).or
        (r.searchTarget name (order.reverse ++ met) rest) := by
  induction h generalizing met rest with
  | done => rfl
  | @skip marked key pending order hkey _ ih =>
    rw [← ih met rest hmarked, List.cons_append]
    by_cases hmet : met.contains key = true
    · rw [searchTarget_of_met hmet]
    · have hunknown : r.find? key = none :=
        ((hmarked key).1 hkey).resolve_left (by simpa using hmet)
      rw [searchTarget_of_unknown hmet hunknown]
  | @visit marked key pending below later hkey _ _ ihbelow ihlater =>
    obtain ⟨hnew, hknown⟩ := not_or.1 (mt (hmarked key).2 hkey)
    obtain ⟨p, hp⟩ := Option.ne_none_iff_exists'.1 hknown
    rw [List.cons_append, searchTarget_of_known (by simpa using hnew) hp, ← targetAt?_of_find? hp,
      List.cons_append, List.findSome?_cons]
    cases r.targetAt? key name with
    | some target => rfl
    | none =>
      have hbelow := ihbelow (key :: met) (pending ++ rest) fun x => by
        simp only [hmarked, List.mem_cons, or_assoc]
      have hlater := ihlater (below.reverse ++ key :: met) rest fun x => by
        simp only [hmarked, List.mem_append, List.mem_cons, List.mem_reverse]
        tauto
      rw [← dependentsOf_of_find? hp]
      simp only [hbelow, hlater, List.findSome?_append, Option.or_assoc, List.reverse_append,
        List.reverse_cons, List.append_assoc, List.singleton_append]

/-- What can be borrowed is the first target that the packages in depth-first order have. -/
theorem borrowedTarget?_of_depthFirst (h : DepthFirst r.dependentsOf r.Unknown [key] order) :
    r.borrowedTarget? key name = order.findSome? (r.targetAt? · name) := by
  have hsearch : r.searchTarget name [] ([key] ++ []) =
      (order.findSome? (r.targetAt? · name)).or (r.searchTarget name (order.reverse ++ []) []) :=
    searchTarget_of_depthFirst h [] [] fun x => by simp
  rwa [List.append_nil, searchTarget, Option.or_none] at hsearch

/-! ### What has been borrowed does not matter -/

/-- The registry with other dependencies of a package. -/
def withDependencies (r : Registry) (key : String) (dependencies : List Dependency) : Registry :=
  r.update key fun p => { p with dependencies }

/-- Some dependencies of a package have borrowed what they can, and the others are as they were. -/
def PartlySettled (r : Registry) (key : String) (dependencies : List Dependency) : Prop :=
  ∀ i : Nat, dependencies[i]? = (r.dependenciesOf key)[i]? ∨
    dependencies[i]? = (r.dependenciesOf key)[i]?.map (r.settle key)

theorem find?_withDependencies : (r.withDependencies key ds).find? other =
    (r.find? other).map fun p => if other = key then { p with dependencies := ds } else p :=
  find?_update fun _ => rfl

theorem dependentsOf_withDependencies : (r.withDependencies key ds).dependentsOf = r.dependentsOf :=
  funext fun _ => dependentsOf_update (fun _ => rfl) fun _ => rfl

theorem unknown_withDependencies : (r.withDependencies key ds).Unknown = r.Unknown := by
  funext x
  rw [Unknown, find?_withDependencies, Option.map_eq_none_iff, Unknown]

theorem dependenciesOf_withDependencies (hp : r.find? key = some p) :
    (r.withDependencies key ds).dependenciesOf key = ds := by
  rw [dependenciesOf, find?_withDependencies, hp]
  simp

theorem targetAt?_withDependencies_of_ne (hne : other ≠ key) :
    (r.withDependencies key ds).targetAt? other name = r.targetAt? other name := by
  have hfind : (r.withDependencies key ds).find? other = r.find? other :=
    find?_update_of_ne (fun _ => rfl) hne
  rw [targetAt?, dependenciesOf, hfind, targetAt?, dependenciesOf]

/-- A package that has borrowed for some of its dependencies can still borrow the same. -/
theorem PartlySettled.borrowedTarget?_eq (h : r.PartlySettled key ds) (hp : r.find? key = some p) :
    (r.withDependencies key ds).borrowedTarget? key name = r.borrowedTarget? key name := by
  obtain ⟨order, horder⟩ := exists_depthFirst (fun _ h => h : ∀ x, r.find? x = none → r.Unknown x)
    r.dependentsOf [key]
  have hsame : DepthFirst (r.withDependencies key ds).dependentsOf
      (r.withDependencies key ds).Unknown [key] order := by
    rwa [dependentsOf_withDependencies, unknown_withDependencies]
  -- The package is asked first, and not again among those that require it.
  obtain ⟨below, rfl, hnotin⟩ := horder.exists_tail (by simp [hp])
  have hfirst (q : Registry) : (key :: below).findSome? (q.targetAt? · name) =
      (q.targetAt? key name).or (below.findSome? (q.targetAt? · name)) := by
    rw [List.findSome?_cons]
    cases q.targetAt? key name <;> rfl
  have hbelow : below.findSome? ((r.withDependencies key ds).targetAt? · name) =
      below.findSome? (r.targetAt? · name) := by
    refine findSome?_congr fun x hx => targetAt?_withDependencies_of_ne ?_
    rintro rfl
    exact hnotin hx
  have hfound : r.borrowedTarget? key name =
      (r.targetAt? key name).or (below.findSome? (r.targetAt? · name)) := by
    rw [borrowedTarget?_of_depthFirst horder, hfirst]
  rw [borrowedTarget?_of_depthFirst hsame, hfirst, hbelow, targetAt?,
    dependenciesOf_withDependencies hp]
  exact findSome?_of_lent (targetFor?_settle key) h hfound

/-! ### One dependency after another -/

theorem modify_congr {α : Type} {l : List α} {f g : α → α} (h : ∀ a, l[i]? = some a → f a = g a) :
    l.modify i f = l.modify i g := by
  refine List.ext_getElem? fun j => ?_
  rw [List.getElem?_modify, List.getElem?_modify]
  by_cases hij : i = j
  · subst hij
    cases ha : l[i]? with
    | none => rfl
    | some a => simp [h a ha]
  · simp [hij]

/-- To settle a dependency is to do what a repair does. -/
theorem settle_eq : r.settle key d = { d with
    target := d.target.or (if d.isResolved then none else r.borrowedTarget? key d.name) } := by
  obtain ⟨requirement, target⟩ := d
  cases target <;> rfl

theorem settle_settle : r.settle key (r.settle key d) = r.settle key d := by
  simp [settle, Option.or_assoc]

theorem PartlySettled.modify (h : r.PartlySettled key ds) (i : Nat) :
    r.PartlySettled key (ds.modify i (r.settle key)) := by
  intro j
  rw [List.getElem?_modify]
  by_cases hij : i = j
  · refine .inr ?_
    obtain hold | hsettled := h j
    · simp [hij, hold]
    · simp [hij, hsettled, Function.comp_def, settle_settle]
  · simpa [hij] using h j

theorem PartlySettled.repairTarget?_eq (h : r.PartlySettled key ds) (hp : r.find? key = some p)
    (hd : ds[i]? = some d) : (r.withDependencies key ds).repairTarget? ⟨key, i⟩ =
      if d.isResolved then none else r.borrowedTarget? key d.name := by
  rw [repairTarget?, dependency?, dependenciesOf_withDependencies hp, hd, Option.bind_some,
    h.borrowedTarget?_eq hp]

/-- Where a repair finds nothing to do, there is nothing to settle. -/
theorem PartlySettled.modify_of_none (h : r.PartlySettled key ds) (hp : r.find? key = some p)
    (hnone : (r.withDependencies key ds).repairTarget? ⟨key, i⟩ = none) :
    ds.modify i (r.settle key) = ds := by
  have hsame : ds.modify i (r.settle key) = ds.modify i id := by
    refine modify_congr fun d hd => ?_
    rw [settle_eq, ← h.repairTarget?_eq hp hd, hnone, Option.or_none]
    rfl
  rw [hsame, List.modify_id]

/-- Where a repair finds a target, the dependency is settled with it. -/
theorem PartlySettled.withDependencies_of_some (h : r.PartlySettled key ds)
    (hp : r.find? key = some p)
    (hsome : (r.withDependencies key ds).repairTarget? ⟨key, i⟩ = some target) :
    r.withDependencies key (ds.modify i (r.settle key)) =
      (r.withDependencies key ds).setTarget ⟨key, i⟩ target := by
  have hmodify : ds.modify i (r.settle key) = ds.modify i (·.withTarget target) := by
    refine modify_congr fun d hd => ?_
    have htarget := (h.repairTarget?_eq hp hd).symm.trans hsome
    cases hopen : d.target with
    | some own => simp [Dependency.isResolved, hopen] at htarget
    | none =>
      rw [settle_eq, htarget, hopen]
      rfl
  have hset : (r.withDependencies key ds).setTarget ⟨key, i⟩ target =
      r.withDependencies key (ds.modify i (·.withTarget target)) :=
    update_update (f := fun p => { p with dependencies := ds }) fun _ => rfl
  rw [hmodify, hset]

theorem foldl_modify_range {α : Type} (l : List α) (f : α → α) :
    (List.range l.length).foldl (fun l i => l.modify i f) l = l.map f := by
  have hfirst (k : Nat) (j : Nat) : ((List.range k).foldl (fun l i => l.modify i f) l)[j]? =
      if j < k then l[j]?.map f else l[j]? := by
    induction k with
    | zero => simp
    | succ k ih =>
      rw [List.range_succ, List.foldl_append, List.foldl_cons, List.foldl_nil,
        List.getElem?_modify, ih]
      by_cases hkj : k = j
      · simp [hkj]
      · have hlt : j < k + 1 ↔ j < k := by omega
        simp [hkj, hlt]
  refine List.ext_getElem? fun j => ?_
  rw [hfirst, List.getElem?_map]
  split
  · rfl
  · next hj => simp [List.getElem?_eq_none (Nat.le_of_not_lt hj)]

end Registry

namespace Workspace

open Operation Registry

variable {w : Workspace} {r : Registry} {key : String} {p : Package} {ds : List Dependency}

theorem outcome_repairDependency (h : r.PartlySettled key ds) (hp : r.find? key = some p)
    (hw : w.registry = r.withDependencies key ds) (i : Nat) :
    ∃ more, outcome (repairDependency ⟨key, i⟩) w = (.ok (), { w with
      registry := r.withDependencies key (ds.modify i (r.settle key))
      log := w.log ++ more }) := by
  cases htarget : w.registry.repairTarget? ⟨key, i⟩ with
  | none =>
    refine ⟨#[], ?_⟩
    rw [outcome_repairDependency_of_none htarget, h.modify_of_none hp (hw ▸ htarget), ← hw,
      Array.append_empty]
  | some target =>
    obtain ⟨entry, hrun⟩ := outcome_repairDependency_of_some htarget
    refine ⟨#[entry], ?_⟩
    rw [hrun, h.withDependencies_of_some hp (hw ▸ htarget), ← hw, Array.push_eq_append]

/-- Repairs of some dependencies of a package settle them in turn. -/
theorem outcome_repairDependencies (h : r.PartlySettled key ds) (hp : r.find? key = some p)
    (hw : w.registry = r.withDependencies key ds) (indices : List Nat) :
    ∃ more, outcome ((indices.map (DependencyRef.mk key)).forM repairDependency) w =
      (.ok (), { w with
        registry := r.withDependencies key
          (indices.foldl (fun ds i => ds.modify i (r.settle key)) ds)
        log := w.log ++ more }) := by
  induction indices generalizing w ds with
  | nil =>
    refine ⟨#[], ?_⟩
    rw [List.map_nil, List.foldl_nil, ← hw, Array.append_empty]
    rfl
  | cons i indices ih =>
    obtain ⟨first, hfirst⟩ := outcome_repairDependency h hp hw i
    obtain ⟨more, hmore⟩ := ih (w := { w with
      registry := r.withDependencies key (ds.modify i (r.settle key))
      log := w.log ++ first }) (h.modify i) rfl
    refine ⟨first ++ more, (outcome_bind_ok _ hfirst).trans (hmore.trans ?_)⟩
    rw [List.foldl_cons, Array.append_assoc]

/-- A repair settles all dependencies of a package. -/
theorem outcome_repair (hw : w.registry.Distinct) (key : String) :
    ∃ more, outcome (repair key) w = (.ok (), { w with
      registry := w.registry.update key fun p => { p with
        dependencies := p.dependencies.map (w.registry.settle key) }
      log := w.log ++ more }) := by
  cases hp : w.registry.find? key with
  | none =>
    have hsame : w.registry.update key (fun p => { p with
        dependencies := p.dependencies.map (w.registry.settle key) }) = w.registry :=
      update_eq_self hw fun p h => by simp [hp] at h
    refine ⟨#[], ?_⟩
    rw [hsame, Array.append_empty]
    simp [repair, outcome_bind, hp]
  | some p =>
    have hsame : w.registry = w.registry.withDependencies key p.dependencies :=
      (update_eq_self hw fun q hq => by cases hp.symm.trans hq; rfl).symm
    have hdone : w.registry.withDependencies key (p.dependencies.map (w.registry.settle key)) =
        w.registry.update key fun p => { p with
          dependencies := p.dependencies.map (w.registry.settle key) } :=
      update_congr hw fun q hq => by cases hp.symm.trans hq; rfl
    have hbegin : w.registry.PartlySettled key p.dependencies :=
      fun i => .inl (by rw [dependenciesOf_of_find? hp])
    obtain ⟨more, hrun⟩ := outcome_repairDependencies hbegin hp hsame
      (List.range p.dependencies.length)
    rw [foldl_modify_range, hdone] at hrun
    refine ⟨more, ?_⟩
    rw [← hrun]
    obtain rfl := find?_manifest hp
    simp [repair, outcome_bind, hp, Package.dependencyRefs]

/-- A repair gives every dependency of a package that has no target the first that is found among
those that require the package, itself before all others: they are asked in the order of a
depth-first search, and each in the order of its declarations. Everything is looked up as it was
before the repair, and nothing else changes. -/
theorem repair_first_match (w : Workspace) (hw : w.registry.Distinct) (key : String) :
    ∃ order more, (∀ other, DepthFirst w.registry.dependentsOf w.registry.Unknown [key] other ↔
        other = order) ∧
      order.Nodup ∧
      (∀ q, q ∈ order ↔ (w.registry.find? q).isSome ∧ w.registry.Dependent key q) ∧
      outcome (repair key) w = (.ok (), { w with
        registry := w.registry.update key fun p => { p with
          dependencies := p.dependencies.map fun d => { d with
            target := d.target.or (order.findSome? (w.registry.targetAt? · d.name)) } }
        log := w.log ++ more }) := by
  obtain ⟨order, horder⟩ := exists_depthFirst
    (fun _ h => h : ∀ x, w.registry.find? x = none → w.registry.Unknown x)
    w.registry.dependentsOf [key]
  have hmem (q : String) :
      q ∈ order ↔ (w.registry.find? q).isSome ∧ w.registry.Dependent key q := by
    have havoiding : Avoiding w.registry.RequiredBy w.registry.Unknown key q ↔
        (w.registry.find? q).isSome ∧ w.registry.Dependent key q :=
      avoiding_iff (fun _ _ => isSome_find?_of_requiredBy) fun _ _ => Iff.rfl
    rw [horder.mem_iff, ← havoiding]
    simp only [List.mem_singleton, exists_eq_left]
    rfl
  have hsettle (d : Dependency) : { d with
      target := d.target.or (order.findSome? (w.registry.targetAt? · d.name)) } =
        w.registry.settle key d := by rw [settle, borrowedTarget?_of_depthFirst horder]
  obtain ⟨more, hrun⟩ := outcome_repair hw key
  refine ⟨order, more, fun other => ⟨fun h => h.unique horder, fun heq => heq ▸ horder⟩,
    horder.nodup, hmem, ?_⟩
  simp only [hsettle]
  exact hrun

/-- Two packages require each other. The first is asked before the second, which has found one of
the two that the first misses. -/
theorem repair_first_match_mutualPair :
    mutualPair.registry.Distinct ∧ ∃ more, outcome (repair "a") mutualPair =
      (.ok (), { mutualPair with
        registry := mutualPair.registry.withDependencies "a"
          [⟨⟨"x", "", false⟩, some "t"⟩, ⟨⟨"y", "", false⟩, none⟩]
        log := #[] ++ more }) := by
  have hdistinct : mutualPair.registry.Distinct := by
    unfold Registry.Distinct
    decide
  have ha : mutualPair.registry.dependentsOf "a" = ["b"] := by decide
  have hb : mutualPair.registry.dependentsOf "b" = ["a"] := by decide
  have hback : DepthFirst mutualPair.registry.dependentsOf
      (fun x => x = "a" ∨ mutualPair.registry.Unknown x) ["b"] ["b"] := by
    refine @DepthFirst.visit _ _ _ "b" [] [] [] (by decide) ?_ .done
    rw [hb]
    exact .skip (.inr (.inl rfl)) .done
  have hsearch : DepthFirst mutualPair.registry.dependentsOf mutualPair.registry.Unknown
      ["a"] ["a", "b"] := by
    refine @DepthFirst.visit _ _ _ "a" [] ["b"] [] (by decide) ?_ .done
    rwa [ha]
  obtain ⟨order, more, horder, -, -, hrun⟩ := repair_first_match mutualPair hdistinct "a"
  obtain rfl := (horder _).1 hsearch
  refine ⟨hdistinct, more, hrun.trans ?_⟩
  rfl

end Workspace

end PascalWorkspace
