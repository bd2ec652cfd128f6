import PascalWorkspace.Proofs.Package.Flat
import PascalWorkspace.Proofs.Package.Likeness
import PascalWorkspace.Proofs.Package.Repair

/-! Borrowing where no package requires itself. A search then finds what a plain search finds that
does not keep track of where it has been, and repairs do not change what can be found. So a pass of
repairs borrows what could be borrowed before it, in whatever order the packages are repaired. -/
namespace PascalWorkspace

theorem findSome?_congr {α β : Type} {f g : α → Option β} {l : List α} (h : ∀ a ∈ l, f a = g a) :
    l.findSome? f = l.findSome? g := by
  induction l with
  | nil => rfl
  | cons a rest ih =>
    obtain ⟨ha, hrest⟩ := List.forall_mem_cons.1 h
    rw [List.findSome?_cons, List.findSome?_cons, ha, ih hrest]

/-- The target of a dependency, if it has the name. -/
def Dependency.targetFor? (name : String) (d : Dependency) : Option String :=
  if sameName d.name name then d.target else none

theorem Package.targetOf?_eq (p : Package) (name : String) :
    p.targetOf? name = p.dependencies.findSome? (·.targetFor? name) := by
  unfold Package.targetOf?
  induction p.dependencies with
  | nil => rfl
  | cons d rest ih =>
    rw [List.find?_cons, List.findSome?_cons, ← ih]
    cases hname : sameName d.name name with
    | false => simp [Dependency.targetFor?, hname]
    | true =>
      cases htarget : d.target <;>
        simp [Dependency.targetFor?, Dependency.isResolved, hname, htarget]

namespace Registry

variable {r s : Registry} {key name target : String} {ref : DependencyRef} {d : Dependency}
  {met pending : List String}

/-- No package requires itself, directly or through others. -/
def Layered (r : Registry) : Prop := ∀ key, ¬ Relation.TransGen r.RequiredBy key key

theorem Layered.wellFounded (hr : r.Layered) :
    WellFounded fun dependent key => r.RequiredBy key dependent :=
  wellFounded_of_no_cycle (fun _ _ => isSome_find?_of_requiredBy) hr

/-- The target that a package itself has for a name. -/
def targetAt? (r : Registry) (key name : String) : Option String :=
  (r.dependenciesOf key).findSome? (·.targetFor? name)

theorem targetAt?_of_find? {p : Package} (hp : r.find? key = some p) :
    r.targetAt? key name = p.targetOf? name := by
  rw [targetAt?, dependenciesOf_of_find? hp, p.targetOf?_eq]

theorem targetAt?_of_find?_eq_none (h : r.find? key = none) : r.targetAt? key name = none := by
  simp [targetAt?, dependenciesOf, h]

/-! ### The plain search -/

/-- What is found by asking a package first and then each that requires it in the same way, without
keeping track of where one has been. -/
def plainTarget? (r : Registry) (hr : r.Layered) (name key : String) : Option String :=
  (r.targetAt? key name).or
    (((r.dependentsOf key).attach.map fun q => r.plainTarget? hr name q.1).findSome? id)
  termination_by hr.wellFounded.wrap key
  decreasing_by exact q.2

section Plain

variable (hr : r.Layered)

theorem plainTarget?_eq : r.plainTarget? hr name key =
    (r.targetAt? key name).or ((r.dependentsOf key).findSome? (r.plainTarget? hr name)) := by
  rw [plainTarget?, List.attach_map_val, List.findSome?_map]
  rfl

theorem plainTarget?_of_find?_eq_none (h : r.find? key = none) :
    r.plainTarget? hr name key = none := by
  rw [plainTarget?_eq, targetAt?_of_find?_eq_none h, dependentsOf, h]
  rfl

/-- Behind a package that has no target of its own come those that require it. -/
theorem plainTarget?_of_targetOf? {p : Package} (hp : r.find? key = some p)
    (h : p.targetOf? name = none) :
    r.plainTarget? hr name key = p.requiredBy.findSome? (r.plainTarget? hr name) := by
  rw [plainTarget?_eq, targetAt?_of_find? hp, h, Option.none_or, dependentsOf_of_find? hp]

/-- From the pending packages a search comes back only to packages, among those that it has met, from
which there is nothing to be found. -/
def Exhausted (name : String) (met pending : List String) : Prop :=
  ∀ q ∈ pending, ∀ k ∈ met, r.Dependent q k → r.plainTarget? hr name k = none

variable {hr} {first : String} {before : List String} {p : Package}

theorem Exhausted.tail (h : Exhausted hr name met (first :: before)) :
    Exhausted hr name met before := fun q hq => h q (List.mem_cons_of_mem _ hq)

theorem Exhausted.eq_none_of_met (h : Exhausted hr name met (first :: before))
    (hmet : first ∈ met) : r.plainTarget? hr name first = none :=
  h first List.mem_cons_self first hmet .refl

/-- No package comes back to itself from those that require it. -/
theorem Exhausted.dependents (h : Exhausted hr name met (first :: before))
    (hfind : r.find? first = some p) : Exhausted hr name (first :: met) p.requiredBy := by
  intro q hq k hk hway
  have hrequired : r.RequiredBy first q := by rwa [RequiredBy, dependentsOf_of_find? hfind]
  obtain rfl | hk := List.mem_cons.1 hk
  · exact absurd (.head' hrequired hway) (hr k)
  · exact h first List.mem_cons_self k hk (.head hrequired hway)

theorem Exhausted.next (h : Exhausted hr name met (first :: before))
    (hfind : r.find? first = some p) (hplain : r.plainTarget? hr name first = none) :
    Exhausted hr name (first :: met) (p.requiredBy ++ before) := by
  intro q hq k hk hway
  obtain hq | hq := List.mem_append.1 hq
  · exact h.dependents hfind q hq k hk hway
  · obtain rfl | hk := List.mem_cons.1 hk
    · exact hplain
    · exact h.tail q hq k hk hway

/-- What the plain search finds from the first packages a search finds there as well, unless it has
been before where it still had to look. -/
theorem searchTarget_of_plainTarget? {later : List String} (hmet : Exhausted hr name met before)
    (h : before.findSome? (r.plainTarget? hr name) = some target) :
    r.searchTarget name met (before ++ later) = some target := by
  generalize hpending : before ++ later = pending
  fun_induction searchTarget r name met pending generalizing before later with
  | case1 met =>
    obtain ⟨rfl, -⟩ := List.append_eq_nil_iff.1 hpending
    cases h
  | case2 met key rest hkey ih =>
    cases before with
    | nil => cases h
    | cons first before =>
      obtain ⟨rfl, rfl⟩ := List.cons.inj hpending
      rw [List.findSome?_cons, hmet.eq_none_of_met (by simpa using hkey)] at h
      exact ih hmet.tail h rfl
  | case3 met key rest hkey hfind ih =>
    cases before with
    | nil => cases h
    | cons first before =>
      obtain ⟨rfl, rfl⟩ := List.cons.inj hpending
      rw [List.findSome?_cons, plainTarget?_of_find?_eq_none hr hfind] at h
      exact ih hmet.tail h rfl
  | case4 met key rest hkey p hfind own hown =>
    cases before with
    | nil => cases h
    | cons first before =>
      obtain ⟨rfl, rfl⟩ := List.cons.inj hpending
      rw [List.findSome?_cons, plainTarget?_eq, targetAt?_of_find? hfind, hown] at h
      exact h
  | case5 met key rest hkey p hfind hown ih =>
    cases before with
    | nil => cases h
    | cons first before =>
      obtain ⟨rfl, rfl⟩ := List.cons.inj hpending
      have hfirst := plainTarget?_of_targetOf? hr hfind hown
      rw [List.findSome?_cons] at h
      cases hplain : r.plainTarget? hr name first with
      | some found =>
        -- Those that require the package have it, so what comes after them does not matter.
        rw [hplain] at h hfirst
        exact ih (hmet.dependents hfind) (hfirst.symm.trans h) rfl
      | none =>
        have hfound :
            (p.requiredBy ++ before).findSome? (r.plainTarget? hr name) = some target := by
          rw [List.findSome?_append, ← hfirst, hplain]
          rwa [hplain] at h
        exact ih (hmet.next hfind hplain) hfound (List.append_assoc _ _ _)

variable (hr)

/-- Where the plain search finds nothing, no search does. -/
theorem searchTarget_of_plainTarget?_eq_none
    (h : pending.findSome? (r.plainTarget? hr name) = none) :
    r.searchTarget name met pending = none := by
  fun_induction searchTarget r name met pending with
  | case1 met => rfl
  | case2 met key rest hkey ih =>
    rw [List.findSome?_eq_none_iff, List.forall_mem_cons] at h
    exact ih (List.findSome?_eq_none_iff.2 h.2)
  | case3 met key rest hkey hfind ih =>
    rw [List.findSome?_eq_none_iff, List.forall_mem_cons] at h
    exact ih (List.findSome?_eq_none_iff.2 h.2)
  | case4 met key rest hkey p hfind own hown =>
    rw [List.findSome?_cons, plainTarget?_eq, targetAt?_of_find? hfind, hown] at h
    cases h
  | case5 met key rest hkey p hfind hown ih =>
    rw [List.findSome?_eq_none_iff, List.forall_mem_cons, plainTarget?_of_targetOf? hr hfind hown,
      ← List.findSome?_eq_none_iff] at h
    refine ih ?_
    rw [List.findSome?_append, h.1, h.2]
    rfl

/-- The search that keeps track of where it has been finds no more and no less, and the same. -/
theorem borrowedTarget?_eq_plainTarget? :
    r.borrowedTarget? key name = r.plainTarget? hr name key := by
  have hplain : [key].findSome? (r.plainTarget? hr name) = r.plainTarget? hr name key := by
    rw [List.findSome?_singleton]
  cases h : r.plainTarget? hr name key with
  | some target =>
    have hmet : Exhausted hr name [] [key] := fun _ _ _ hk => absurd hk List.not_mem_nil
    have hfound : r.searchTarget name [] ([key] ++ []) = some target :=
      searchTarget_of_plainTarget? hmet (hplain.trans h)
    exact hfound
  | none => exact searchTarget_of_plainTarget?_eq_none hr (hplain.trans h)

end Plain

/-! ### Repairs do not change what can be borrowed -/

/-- A dependency with the target that it can borrow, if it has none. -/
def settle (r : Registry) (key : String) (d : Dependency) : Dependency :=
  { d with target := d.target.or (r.borrowedTarget? key d.name) }

/-- Some dependencies have borrowed what they could. -/
structure Lent (r s : Registry) : Prop where
  dependents : ∀ key, s.dependentsOf key = r.dependentsOf key
  dependencies : ∀ ref, s.dependency? ref = r.dependency? ref ∨
    s.dependency? ref = (r.dependency? ref).map (r.settle ref.manifest)

theorem lent_refl (r : Registry) : Lent r r := ⟨fun _ => rfl, fun _ => .inl rfl⟩

/-- Letters of either case are the same to the search. -/
theorem borrowedTarget?_congr {other : String} (hname : sameName name other = true) :
    r.borrowedTarget? key name = r.borrowedTarget? key other := by
  have hself : r.Alike .caseless r := alike_self (fun _ => rfl) fun _ _ => trivial
  exact hself.searchTarget (sameName_iff.1 hname) [] [key]

theorem targetFor?_settle (key : String) (d : Dependency) :
    (r.settle key d).targetFor? name =
      if sameName d.name name then d.target.or (r.borrowedTarget? key name) else none := by
  unfold Dependency.targetFor? settle
  split
  · next hname => rw [borrowedTarget?_congr hname]
  · rfl

/-- If some dependencies borrow what is found for a name, that is still found first, before them or
behind. -/
theorem findSome?_of_lent {before after : List Dependency} {behind found : Option String}
    {lend : Dependency → Dependency}
    (hlend : ∀ d, (lend d).targetFor? name =
      if sameName d.name name then d.target.or found else none)
    (h : ∀ i : Nat, after[i]? = before[i]? ∨ after[i]? = before[i]?.map lend)
    (hfound : found = (before.findSome? (·.targetFor? name)).or behind) :
    (after.findSome? (·.targetFor? name)).or behind = found := by
  induction before generalizing after with
  | nil =>
    cases after with
    | nil => exact hfound.symm
    | cons e after => simpa using h 0
  | cons d before ih =>
    cases after with
    | nil => simpa using h 0
    | cons e after =>
      have hrest (i : Nat) : after[i]? = before[i]? ∨ after[i]? = before[i]?.map lend := by
        simpa using h (i + 1)
      have hhead : e = d ∨ e = lend d := by simpa using h 0
      rw [List.findSome?_cons] at hfound ⊢
      cases hown : d.targetFor? name with
      | some target =>
        have he : e.targetFor? name = some target := by
          rcases hhead with rfl | rfl
          · exact hown
          · unfold Dependency.targetFor? at hown
            split at hown
            · next hname => rw [hlend, if_pos hname, hown, Option.some_or]
            · cases hown
        rw [hown] at hfound
        rw [he, hfound]
      | none =>
        rw [hown] at hfound
        cases he : e.targetFor? name with
        | none => exact ih hrest hfound
        | some target =>
          -- The dependency has borrowed what is found.
          rcases hhead with rfl | rfl
          · simp [hown] at he
          · rw [hlend] at he
            unfold Dependency.targetFor? at hown
            split at he
            · next hname =>
              rw [if_pos hname] at hown
              rw [hown, Option.none_or] at he
              rw [he, Option.some_or]
            · cases he

theorem Lent.layered (h : Lent r s) (hr : r.Layered) : s.Layered := by
  rw [Layered, requiredBy_congr h.dependents]
  exact hr

/-- What can be borrowed stays the same. -/
theorem Lent.borrowedTarget?_eq (h : Lent r s) (hr : r.Layered) :
    s.borrowedTarget? key name = r.borrowedTarget? key name := by
  have hs := h.layered hr
  have hplain : s.plainTarget? hs name key = r.plainTarget? hr name key := by
    induction key using hr.wellFounded.induction with
    | _ key ih =>
      have hbehind : (s.dependentsOf key).findSome? (s.plainTarget? hs name) =
          (r.dependentsOf key).findSome? (r.plainTarget? hr name) := by
        rw [h.dependents]
        exact findSome?_congr ih
      have hlend (d : Dependency) : (r.settle key d).targetFor? name =
          if sameName d.name name then d.target.or (r.plainTarget? hr name key) else none := by
        rw [targetFor?_settle, borrowedTarget?_eq_plainTarget? hr]
      have hdependencies (i : Nat) :
          (s.dependenciesOf key)[i]? = (r.dependenciesOf key)[i]? ∨
            (s.dependenciesOf key)[i]? = (r.dependenciesOf key)[i]?.map (r.settle key) :=
        h.dependencies ⟨key, i⟩
      rw [plainTarget?_eq, hbehind]
      exact findSome?_of_lent hlend hdependencies (plainTarget?_eq hr)
  rw [borrowedTarget?_eq_plainTarget? hs, borrowedTarget?_eq_plainTarget? hr, hplain]

/-- A repair lends what could be borrowed at first. -/
theorem Lent.setTarget (h : Lent r s) (hr : r.Layered)
    (htarget : s.repairTarget? ref = some target) :
    Lent r (s.setTarget ref target) := by
  obtain ⟨e, he, hopen, hborrow⟩ := repairTarget?_eq_some htarget
  rw [h.borrowedTarget?_eq hr] at hborrow
  refine ⟨fun key => ?_, fun place => ?_⟩
  · rw [dependentsOf_setTarget, h.dependents]
  · rw [dependency?_setTarget]
    split
    · next hplace =>
      subst hplace
      refine .inr ?_
      obtain hsame | hsettled := h.dependencies place
      · rw [← hsame, he, Option.map_some, Option.map_some, settle, hopen, Option.none_or,
          hborrow]
        rfl
      · obtain ⟨d, hd, rfl⟩ := Option.map_eq_some_iff.1 (hsettled.symm.trans he)
        have hnone := (Option.or_eq_none_iff.1 hopen).2
        simp [settle, hnone] at hborrow
    · exact h.dependencies place

end Registry

namespace Workspace

open Operation Registry

variable {r : Registry} {w v : Workspace} {keys order : List String}

/-- Targets go on being lent that could be borrowed at first. -/
def Lends (r s t : Registry) : Prop := Lent r s → Lent r t

instance : IsPreorder Registry (Lends r) where
  refl _ h := h
  trans _ _ _ hst htu h := htu (hst h)

theorem lends_repair (hr : r.Layered) (key : String) : Keeps (OnRegistry (Lends r)) (repair key) :=
  keeps_repair_of_borrow (fun _ _ _ _ htarget hw => Lent.setTarget hw hr htarget) key

/-- A dependency that is repaired ends with the target that it could borrow at first. -/
theorem Pass.dependency?_eq_settle {chosen : DependencyRef → Prop} {ref : DependencyRef}
    (h : Pass r chosen w v) (hlent : Lent r v.registry) (hchosen : chosen ref) :
    v.registry.dependency? ref = (r.dependency? ref).map (r.settle ref.manifest) := by
  obtain hsame | hsettled := hlent.dependencies ref
  · cases hd : r.dependency? ref with
    | none => rw [hsame, hd, Option.map_none]
    | some d =>
      have hv := hsame.trans hd
      rw [hv, Option.map_some, settle]
      cases htarget : d.target with
      | some target => rw [Option.some_or, ← htarget]
      | none =>
        have hunknown := (h.target_eq_none_iff hchosen hv).1 htarget
        rw [← isSome_borrowedTarget?, Option.not_isSome_iff_eq_none] at hunknown
        rw [hunknown, Option.none_or, ← htarget]
  · exact hsettled

/-- Repairs of some packages, in any order and with repetitions, lend each of their dependencies
what it could borrow at first and leave all others alone. -/
theorem dependency?_of_repairs (hw : w.registry.Layered) (keys : List String) :
    ∃ v, outcome (keys.forM repair) w = (.ok (), v) ∧ ∀ ref, v.registry.dependency? ref =
      if ref.manifest ∈ keys then (w.registry.dependency? ref).map (w.registry.settle ref.manifest)
      else w.registry.dependency? ref := by
  obtain ⟨v, hv, hpass⟩ := pass_repairs w keys
  have hkeeps : Keeps (OnRegistry (Lends w.registry)) (keys.forM repair) :=
    keeps_forM fun key _ => lends_repair hw key
  have hlent : Lent w.registry v.registry := hkeeps.of_outcome hv (lent_refl _)
  refine ⟨v, hv, fun ref => ?_⟩
  split
  · next hkey => exact hpass.dependency?_eq_settle hlent hkey
  · next hkey => exact hpass.others ref hkey

/-- Where no package requires itself, the dependencies that a pass of repairs leaves do not depend
on the order in which the packages are repaired, nor on how often each is. -/
theorem repairs_agree (w : Workspace) (hw : w.registry.Layered) (keys order : List String)
    (horder : ∀ key, key ∈ order ↔ key ∈ keys) :
    ∃ u v, outcome (keys.forM repair) w = (.ok (), u) ∧
      outcome (order.forM repair) w = (.ok (), v) ∧
      ∀ ref, u.registry.dependency? ref = v.registry.dependency? ref := by
  obtain ⟨u, hu, hfirst⟩ := dependency?_of_repairs hw keys
  obtain ⟨v, hv, hsecond⟩ := dependency?_of_repairs hw order
  refine ⟨u, v, hu, hv, fun ref => ?_⟩
  rw [hfirst, hsecond]
  simp only [horder]

/-- The first package misses one that the last two have found differently. The second, which
requires the first, misses it too. -/
def chain : Workspace where
  registry := { packages := [
    { manifest := "a", name := "a", directory := "", paths := {}, requiredBy := ["b", "c"],
      dependencies := [⟨⟨"x", "", false⟩, none⟩] },
    { manifest := "b", name := "b", directory := "", paths := {}, requiredBy := ["d"],
      dependencies := [⟨⟨"X", "", false⟩, none⟩] },
    { manifest := "c", name := "c", directory := "", paths := {},
      dependencies := [⟨⟨"x", "", false⟩, some "near"⟩] },
    { manifest := "d", name := "d", directory := "", paths := {},
      dependencies := [⟨⟨"x", "", false⟩, some "far"⟩] }] }

def chainRank (key : String) : Nat :=
  if key = "a" then 2 else if key = "b" then 1 else 0

theorem layered_chain : chain.registry.Layered := by
  refine not_cycle_of_rank chainRank fun key other hstep => ?_
  have hrank : ∀ p ∈ chain.registry.packages, ∀ q ∈ p.requiredBy,
      chainRank q < chainRank p.manifest := by decide
  obtain ⟨p, hp⟩ := Option.isSome_iff_exists.1 (isSome_find?_of_requiredBy hstep)
  rw [RequiredBy, dependentsOf_of_find? hp] at hstep
  rw [← find?_manifest hp]
  exact hrank p (find?_mem hp) other hstep

/-- The first dependent of the first package does not know the name either, but is itself required
by one that does. -/
theorem borrowedTarget?_chain : chain.registry.borrowedTarget? "a" "x" = some "far" := by
  have hfirst : chain.registry.find? "a" = some chain.registry.packages[0] ∧
    chain.registry.packages[0].targetOf? "x" = none := by decide +kernel
  have hsecond : chain.registry.find? "b" = some chain.registry.packages[1] ∧
    chain.registry.packages[1].targetOf? "x" = none := by decide +kernel
  have hlast : chain.registry.find? "d" = some chain.registry.packages[3] ∧
    chain.registry.packages[3].targetOf? "x" = some "far" := by decide +kernel
  calc chain.registry.searchTarget "x" [] ["a"]
      = chain.registry.searchTarget "x" ["a"] ["b", "c"] := by
        rw [searchTarget_of_known (by decide) hfirst.1, hfirst.2]
        rfl
    _ = chain.registry.searchTarget "x" ["b", "a"] ["d", "c"] := by
        rw [searchTarget_of_known (by decide) hsecond.1, hsecond.2]
        rfl
    _ = some "far" := by rw [searchTarget_of_known (by decide) hlast.1, hlast.2]

/-- Whichever of the two is repaired first, the first package comes to what a search meets first.
-/
theorem repairs_agree_chain :
    chain.registry.Layered ∧ (∀ key, key ∈ ["b", "a", "b"] ↔ key ∈ ["a", "b"]) ∧
      ∃ v, outcome (["b", "a", "b"].forM repair) chain = (.ok (), v) ∧
        v.registry.dependency? ⟨"a", 0⟩ = some ⟨⟨"x", "", false⟩, some "far"⟩ := by
  have horder (key : String) : key ∈ ["b", "a", "b"] ↔ key ∈ ["a", "b"] := by simp; grind
  obtain ⟨u, v, hu, hv, hagree⟩ :=
    repairs_agree chain layered_chain ["a", "b"] ["b", "a", "b"] horder
  obtain ⟨u', hu', hlent⟩ := dependency?_of_repairs layered_chain ["a", "b"]
  obtain rfl : u = u' := congrArg Prod.snd (hu.symm.trans hu')
  refine ⟨layered_chain, horder, v, hv, ?_⟩
  rw [← hagree, hlent, if_pos (by decide)]
  have hd : chain.registry.dependency? ⟨"a", 0⟩ = some ⟨⟨"x", "", false⟩, none⟩ := by decide
  rw [hd, Option.map_some, settle, borrowedTarget?_chain]
  rfl

end Workspace

end PascalWorkspace
