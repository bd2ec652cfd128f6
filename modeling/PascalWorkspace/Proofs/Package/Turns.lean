import PascalWorkspace.Proofs.Package.Resolution

/-! The turns of the dependencies that are looked for. Each dependency of a package has one turn, at
which it is tied to a target for good or given up. -/
namespace PascalWorkspace

namespace Registry

variable {r s : Registry} {ref : DependencyRef} {d : Dependency} {key target : String}

/-- There is no path to look for a dependency if it has no hint and the name does not count. -/
theorem choosePath_eq_empty_iff :
    r.choosePath d = "" ↔ d.hint = "" ∧ (r.namedPath d.name = "" ∨ d.prefer = true) := by
  unfold choosePath
  cases d.prefer with
  | true => simp
  | false => by_cases hname : r.namedPath d.name = "" <;> simp [hname]

end Registry

namespace Workspace

open Operation Registry Relation

variable {source : ManifestSource} {ref : DependencyRef} {rest : List DependencyRef}
  {w v t u : Workspace} {d : Dependency} {p : Package} {r : Registry} {found : Option Package}

/-- Why a dependency has no target after its turn. -/
inductive GivenUp (source : ManifestSource) (r : Registry) (d : Dependency) : Prop where
  /-- The name leads nowhere, and there is no hint. -/
  | unknown (hname : r.namedPath d.name = "") (hhint : d.hint = "")
  /-- The hint is preferred to the name, and there is no hint. -/
  | preferred (hprefer : d.prefer = true) (hhint : d.hint = "")
  /-- The manifest that is looked for cannot be read. -/
  | unreadable {key place : String} {fault : ManifestFault} (hpath : r.choosePath d ≠ "")
      (hkey : source.canonical (r.choosePath d) = .ok key) (hnew : r.find? key = none)
      (hread : source.read key = .error (.manifest place fault))

theorem GivenUp.of_choosePath (h : r.choosePath d = "") : GivenUp source r d := by
  obtain ⟨hhint, hname | hprefer⟩ := choosePath_eq_empty_iff.1 h
  · exact .unknown hname hhint
  · exact .preferred hprefer hhint

theorem GivenUp.choosePath_or (h : GivenUp source r d) : r.choosePath d = "" ∨
    ∃ key place fault, source.canonical (r.choosePath d) = .ok key ∧ r.find? key = none ∧
      source.read key = .error (.manifest place fault) := by
  cases h with
  | unknown hname hhint => exact .inl (choosePath_eq_empty_iff.2 ⟨hhint, .inl hname⟩)
  | preferred hprefer hhint => exact .inl (choosePath_eq_empty_iff.2 ⟨hhint, .inr hprefer⟩)
  | unreadable hpath hkey hnew hread => exact .inr ⟨_, _, _, hkey, hnew, hread⟩

/-- What a turn does to the registry: the dependency is given up, or a package is admitted and the
dependency tied to it. -/
inductive Decided (source : ManifestSource) (ref : DependencyRef) (r : Registry) (d : Dependency) :
    Option Package → Registry → Prop where
  | givenUp {s : Registry} (h : GivenUp source r d) (hs : s.packages = r.packages) :
      Decided source ref r d none s
  | tied {target : Package} {s : Registry} (h : ¬ GivenUp source r d)
      (hkey : source.canonical (r.choosePath d) = .ok target.manifest)
      (hadmits : Admits r target.manifest s) (htarget : s.find? target.manifest = some target) :
      Decided source ref r d (some target) (s.link ref target.manifest)

/-- A package that was not registered before has a manifest that can be read. -/
theorem Asked.exists_read {path key : String} {s : Registry} (h : Asked source path r (.ok p) s)
    (hkey : source.canonical path = .ok key) (hnew : r.find? key = none) :
    ∃ m, source.read key = .ok m := by
  cases h with
  | known hknown hp =>
    rw [hkey] at hknown
    cases hknown
    rw [hp] at hnew
    cases hnew
  | @registered place m hplace _ hread =>
    rw [hkey] at hplace
    cases hplace
    exact ⟨m, hread⟩

theorem Asked.not_givenUp {s : Registry} (h : Asked source (r.choosePath d) r (.ok p) s)
    (hpath : r.choosePath d ≠ "") : ¬ GivenUp source r d := by
  intro hgiven
  obtain hempty | ⟨key, place, fault, hkey, hnew, hread⟩ := hgiven.choosePath_or
  · exact hpath hempty
  · obtain ⟨m, hm⟩ := h.exists_read hkey hnew
    rw [hread] at hm
    cases hm

theorem decided_linkDependency (hd : w.registry.dependency? ref = some d)
    (hrun : outcome (linkDependency source ref) w = (.ok found, v)) :
    Decided source ref w.registry d found v.registry := by
  obtain ⟨p, hp, hindex⟩ := find?_of_dependency? hd
  simp only [linkDependency, outcome_bind, outcome_get, hp, hindex] at hrun
  split at hrun
  · next hpath =>
    simp only [outcome_bind, outcome_report, outcome_pure, Prod.mk.injEq, Except.ok.injEq] at hrun
    obtain ⟨rfl, rfl⟩ := hrun
    exact .givenUp (.of_choosePath (String.isEmpty_iff.1 hpath)) rfl
  · next hpath =>
    have hpath : w.registry.choosePath d ≠ "" := fun hempty => hpath (String.isEmpty_iff.2 hempty)
    rw [outcome_bind] at hrun
    rcases htry : outcome (tryRegister source (w.registry.choosePath d)) w with
      ⟨e | reason | target, x⟩ <;>
      simp only [htry, outcome_bind, outcome_report, outcome_changeRegistry, outcome_pure,
        Prod.mk.injEq, Except.ok.injEq, reduceCtorEq, false_and] at hrun <;>
      obtain ⟨rfl, rfl⟩ := hrun
    · obtain ⟨key, place, fault, hkey, hnew, hread, hx⟩ := refused_tryRegister htry
      exact .givenUp (.unreadable hpath hkey hnew hread) (congrArg (·.packages) hx)
    · have hasked := asked_of_tryRegister htry
      obtain ⟨hkey, hadmits, htarget⟩ := hasked.admits
      exact .tied (hasked.not_givenUp hpath) hkey hadmits htarget

/-! ### The order of turns -/

/-- The dependencies still to be looked for, and what is known before the first of them has its
turn. -/
structure Round where
  pending : List DependencyRef
  workspace : Workspace

/-- The round over the dependencies of a package that is begun. -/
def Round.of (p : Package) (w : Workspace) : Round where
  pending := p.dependencyRefs
  workspace := { w with registry := w.registry.markResolved p.manifest }

/-- The dependency in front has its turn. -/
inductive Round.Turn (source : ManifestSource) : Round → Round → Prop where
  | missed {ref : DependencyRef} {rest : List DependencyRef} {w v : Workspace}
      (h : outcome (linkDependency source ref) w = (.ok none, v)) :
      Turn source ⟨ref :: rest, w⟩ ⟨rest, v⟩
  /-- The dependencies of a package that has been begun are not looked for again. -/
  | known {ref : DependencyRef} {rest : List DependencyRef} {w v : Workspace} {target : Package}
      (h : outcome (linkDependency source ref) w = (.ok (some target), v))
      (hold : target.isResolved = true) : Turn source ⟨ref :: rest, w⟩ ⟨rest, v⟩
  | met {ref : DependencyRef} {rest : List DependencyRef} {w v : Workspace} {target : Package}
      (h : outcome (linkDependency source ref) w = (.ok (some target), v))
      (hnew : target.isResolved = false) : Turn source ⟨ref :: rest, w⟩
        ⟨target.dependencyRefs ++ rest,
          { v with registry := v.registry.markResolved target.manifest }⟩

abbrev Round.Turns (source : ManifestSource) : Round → Round → Prop := ReflTransGen (Round.Turn source)

open Round

theorem rightUnique_turn (source : ManifestSource) : Relator.RightUnique (Turn source) := by
  intro a b c hb hc
  cases hb <;> cases hc <;> simp_all

theorem turns_of_resolveAll {fuel : Nat} {refs : List DependencyRef}
    (hrun : outcome (resolveAll source fuel refs) w = (.ok (), t)) :
    Turns source ⟨refs, w⟩ ⟨[], t⟩ := by
  induction fuel, refs using resolveAll.induct generalizing w with
  | case1 fuel =>
    rw [resolveAll, outcome_pure] at hrun
    obtain rfl : w = t := congrArg Prod.snd hrun
    exact .refl
  | case2 fuel ref rest ih ihTarget =>
    rw [resolveAll] at hrun
    obtain ⟨found, v, hlink, hrun⟩ := outcome_bind_eq_ok hrun
    cases found with
    | none => exact .head (.missed hlink) (ih hrun)
    | some target =>
      dsimp only at hrun
      split at hrun
      · next hold => exact .head (.known hlink hold) (ih hrun)
      · next hnew =>
        rw [outcome_bind, outcome_changeRegistry] at hrun
        cases fuel with
        | zero => cases congrArg Prod.fst hrun
        | succ fuel => exact .head (.met hlink (by simpa using hnew)) (ihTarget target hrun)

/-- Every dependency that is pending has its turn before a round is over. -/
theorem exists_turn {a : Round} (h : Turns source a ⟨[], t⟩) (href : ref ∈ a.pending) :
    ∃ rest u, Turns source a ⟨ref :: rest, u⟩ ∧ Turns source ⟨ref :: rest, u⟩ ⟨[], t⟩ := by
  induction h using ReflTransGen.head_induction_on with
  | refl => cases href
  | @head a b hturn hrest ih =>
    have hnext {front : DependencyRef} {rest : List DependencyRef} {w : Workspace}
        (ha : a = ⟨front :: rest, w⟩) (hsub : ∀ place ∈ rest, place ∈ b.pending) :
        ∃ rest u, Turns source a ⟨ref :: rest, u⟩ ∧ Turns source ⟨ref :: rest, u⟩ ⟨[], t⟩ := by
      subst ha
      obtain rfl | hlater := List.mem_cons.1 href
      · exact ⟨rest, w, .refl, .head hturn hrest⟩
      · obtain ⟨rest', u, hfirst, hlast⟩ := ih (hsub ref hlater)
        exact ⟨rest', u, .head hturn hfirst, hlast⟩
    cases hturn with
    | missed => exact hnext rfl fun _ hplace => hplace
    | known => exact hnext rfl fun _ hplace => hplace
    | met => exact hnext rfl fun _ hplace => List.mem_append_right _ hplace

/-! ### What a turn leaves alone -/

section Looked

variable {s : Registry} {place : DependencyRef} {target : Package} {key : String}

theorem Looked.isResolvedAt (h : Looked source ref r (.ok found) s) :
    s.isResolvedAt key = r.isResolvedAt key := by
  cases h with
  | found hd hasked => rw [isResolvedAt_link, hasked.admits.2.1.isResolvedAt]
  | absent => rfl
  | refused => rfl

theorem Looked.dependency? (h : Looked source ref r (.ok found) s) (hne : place ≠ ref)
    (hd : r.dependency? place = some d) : s.dependency? place = some d := by
  cases h with
  | found _ hasked =>
    have hadmitted := hasked.admits.2.1.dependency? hd
    rwa [link_eq, dependency?_addDependent, dependency?_setTarget, if_neg hne]
  | absent => exact hd
  | refused => exact hd

/-- The package that a dependency is tied to is as it was when the dependency had its turn. -/
theorem Looked.registered (h : Looked source ref r (.ok (some target)) s) :
    (s.find? target.manifest).isSome ∧ r.isResolvedAt target.manifest = target.isResolved := by
  cases h with
  | found _ hasked =>
    obtain ⟨-, hadmits, hfind⟩ := hasked.admits
    rw [isSome_find?_link, hfind, ← hadmits.isResolvedAt, isResolvedAt_of_find? hfind]
    exact ⟨rfl, rfl⟩

end Looked

/-- A round at which a dependency of a package that is begun is as given. -/
structure Round.Tracks (ref : DependencyRef) (d : Dependency) (a : Round) : Prop where
  begun : a.workspace.registry.isResolvedAt ref.manifest = true
  dependency : a.workspace.registry.dependency? ref = some d

theorem looked_of_outcome (h : outcome (linkDependency source ref) w = (.ok found, v)) :
    Looked source ref w.registry (.ok found) v.registry := by
  have hlooked := looked_linkDependency source ref w
  rwa [after, h] at hlooked

section Turn

variable {a b : Round} {e : Dependency} {refs : List DependencyRef} {fuel : Nat}

/-- The package that is met was not begun, and so it is another one. -/
theorem not_mem_dependencyRefs {target : Package} {s : Registry} {front : DependencyRef}
    (h : Looked source front r (.ok (some target)) s) (hnew : target.isResolved = false)
    (hbegun : r.isResolvedAt ref.manifest = true) : ref ∉ target.dependencyRefs := by
  intro hmem
  rw [(mem_dependencyRefs.1 hmem).1, h.registered.2, hnew] at hbegun
  cases hbegun

/-- A dependency of a package that is begun does not come up again. -/
theorem Round.Tracks.count_turn (h : a.Tracks ref d) (hturn : Turn source a b) :
    b.pending.count ref = a.pending.tail.count ref := by
  cases hturn with
  | missed => rfl
  | known => rfl
  | met hlink hnew =>
    have hnot := not_mem_dependencyRefs (looked_of_outcome hlink) hnew h.begun
    rw [List.count_append, List.count_eq_zero_of_not_mem hnot, Nat.zero_add, List.tail_cons]

/-- What a turn leaves tracked is what looking for the dependency in front leaves so. -/
theorem tracks_of_turn (hturn : Turn source a b) (h : a.Tracks ref d)
    (hlink : ∀ front rest w v found, a = ⟨front :: rest, w⟩ →
      outcome (linkDependency source front) w = (.ok found, v) →
      v.registry.dependency? ref = some e) : b.Tracks ref e := by
  cases hturn with
  | missed hrun =>
    have hlooked := looked_of_outcome hrun
    exact ⟨hlooked.isResolvedAt.trans h.begun, hlink _ _ _ _ _ rfl hrun⟩
  | known hrun =>
    have hlooked := looked_of_outcome hrun
    exact ⟨hlooked.isResolvedAt.trans h.begun, hlink _ _ _ _ _ rfl hrun⟩
  | met hrun hnew =>
    have hlooked := looked_of_outcome hrun
    refine ⟨?_, ?_⟩
    · rw [isResolvedAt_markResolved hlooked.registered.1, hlooked.isResolvedAt, h.begun,
        Bool.or_true]
    · rw [dependency?_markResolved]
      exact hlink _ _ _ _ _ rfl hrun

/-- The turn of another dependency leaves a dependency as it is. -/
theorem Round.Tracks.turn (h : a.Tracks ref d) (hturn : Turn source a b)
    (hfront : a.pending.head? ≠ some ref) : b.Tracks ref d := by
  refine tracks_of_turn hturn h ?_
  rintro front rest w v found rfl hrun
  refine (looked_of_outcome hrun).dependency? ?_ h.dependency
  rintro rfl
  exact hfront rfl

/-- Its own turn leaves a dependency without a target exactly if it had none and is given up. -/
theorem Round.Tracks.exists_own_turn (h : (Round.mk (ref :: rest) u).Tracks ref d)
    (hturn : Turn source ⟨ref :: rest, u⟩ b) : ∃ e, b.Tracks ref e ∧
      (e.target = none ↔ d.target = none ∧ GivenUp source u.registry d) := by
  -- What comes of the turn does not depend on what is pending after it.
  have hend (found : Option Package) (v : Workspace)
      (hrun : outcome (linkDependency source ref) u = (.ok found, v)) :
      ∃ e, v.registry.dependency? ref = some e ∧
        (e.target = none ↔ d.target = none ∧ GivenUp source u.registry d) := by
    have hdecided := decided_linkDependency h.dependency hrun
    generalize hs : v.registry = s at hdecided
    cases hdecided with
    | givenUp hgiven hpackages =>
      have hfind (key : String) : s.find? key = u.registry.find? key := by
        rw [find?, hpackages, find?]
      refine ⟨d, ?_, by simp [hgiven]⟩
      rw [Registry.dependency?, dependenciesOf, hfind]
      exact h.dependency
    | @tied target s hnot _ hadmits _ =>
      refine ⟨d.withTarget target.manifest, ?_, by simp [hnot, Dependency.withTarget]⟩
      rw [link_eq, dependency?_addDependent, dependency?_setTarget, if_pos rfl,
        hadmits.dependency? h.dependency]
      rfl
  obtain ⟨found, v, hrun⟩ : ∃ found v, outcome (linkDependency source ref) u = (.ok found, v) := by
    cases hturn with
    | missed hrun => exact ⟨_, _, hrun⟩
    | known hrun => exact ⟨_, _, hrun⟩
    | met hrun => exact ⟨_, _, hrun⟩
  obtain ⟨e, he, hiff⟩ := hend found v hrun
  refine ⟨e, tracks_of_turn hturn h ?_, hiff⟩
  rintro front rest' w v' found' hpass hrun'
  cases hpass
  rw [hrun] at hrun'
  cases hrun'
  exact he

/-- A dependency that is not pending stays as it is. -/
theorem Round.Tracks.turns (h : a.Tracks ref d) (hnot : ref ∉ a.pending)
    (hturns : Turns source a b) : b.Tracks ref d ∧ ref ∉ b.pending := by
  induction hturns with
  | refl => exact ⟨h, hnot⟩
  | tail _ hturn ih =>
    obtain ⟨h, hnot⟩ := ih
    refine ⟨h.turn hturn fun hfront => hnot (List.mem_of_mem_head? hfront), ?_⟩
    rw [← List.count_eq_zero, h.count_turn hturn, List.count_eq_zero]
    exact fun hmem => hnot (List.mem_of_mem_tail hmem)

/-- After its turn a dependency is not pending. -/
theorem Round.Tracks.exists_after_turn (h : (Round.mk (ref :: rest) u).Tracks ref d)
    (honce : ref ∉ rest) (hturn : Turn source ⟨ref :: rest, u⟩ a) (hturns : Turns source a b) :
    ref ∉ b.pending ∧ ∃ e, b.workspace.registry.dependency? ref = some e ∧
      (e.target = none ↔ d.target = none ∧ GivenUp source u.registry d) := by
  obtain ⟨e, he, hiff⟩ := h.exists_own_turn hturn
  have hnot : ref ∉ a.pending := by
    rw [← List.count_eq_zero, h.count_turn hturn]
    exact List.count_eq_zero.2 honce
  obtain ⟨hb, hlater⟩ := he.turns hnot hturns
  exact ⟨hlater, e, hb.dependency, hiff⟩

/-- Until its turn a dependency is as it was, and it has no second turn. -/
theorem Round.Tracks.at_turn (h : a.Tracks ref d) (honce : a.pending.count ref ≤ 1)
    (hturns : Turns source a ⟨ref :: rest, u⟩) :
    (Round.mk (ref :: rest) u).Tracks ref d ∧ ref ∉ rest := by
  induction hturns using ReflTransGen.head_induction_on with
  | refl =>
    rw [List.count_cons_self] at honce
    exact ⟨h, List.count_eq_zero.1 (by omega)⟩
  | @head a b hturn hrest ih =>
    obtain ⟨pending, w⟩ := a
    cases pending with
    | nil => cases hturn
    | cons front later =>
      have hcount := h.count_turn hturn
      by_cases hfront : front = ref
      · -- The turn asked about would be a second one.
        subst hfront
        rw [List.count_cons_self] at honce
        have hnot : front ∉ later := List.count_eq_zero.1 (by omega)
        exact absurd List.mem_cons_self (h.exists_after_turn hnot hturn hrest).1
      · refine ih (h.turn hturn (by simpa using hfront)) ?_
        rw [hcount, List.tail_cons]
        exact (List.count_le_count_cons ..).trans honce

theorem Round.Tracks.turn_unique {rest' : List DependencyRef} {u' : Workspace}
    (h : a.Tracks ref d) (honce : a.pending.count ref ≤ 1)
    (hfirst : Turns source a ⟨ref :: rest, u⟩) (hsecond : Turns source a ⟨ref :: rest', u'⟩) :
    rest' = rest ∧ u' = u := by
  have hsame {rest rest' : List DependencyRef} {u u' : Workspace}
      (hfirst : Turns source a ⟨ref :: rest, u⟩)
      (hbetween : Turns source ⟨ref :: rest, u⟩ ⟨ref :: rest', u'⟩) : rest' = rest ∧ u' = u := by
    obtain ⟨htracks, hnot⟩ := h.at_turn honce hfirst
    obtain heq | ⟨b, hturn, hturns⟩ := hbetween.cases_head
    · cases heq
      exact ⟨rfl, rfl⟩
    · exact absurd List.mem_cons_self (htracks.exists_after_turn hnot hturn hturns).1
  obtain hbetween | hbetween := hfirst.total_of_right_unique (rightUnique_turn source) hsecond
  · exact hsame hfirst hbetween
  · obtain ⟨hrest, hu⟩ := hsame hsecond hbetween
    exact ⟨hrest.symm, hu.symm⟩

end Turn

theorem tracks_of_new (hp : w.registry.find? p.manifest = some p)
    {index : Nat} (hd : p.dependencies[index]? = some d) :
    (Round.of p w).Tracks ⟨p.manifest, index⟩ d := by
  refine ⟨?_, ?_⟩
  · exact (isResolvedAt_markResolved (by simp [hp])).trans (by simp)
  · exact dependency?_markResolved.trans ((dependency?_of_find? hp).trans hd)

theorem turns_of_resolve (hp : w.registry.find? p.manifest = some p) (hnew : p.isResolved = false)
    (hrun : outcome (resolve source p.manifest) w = (.ok (), t)) :
    Turns source (Round.of p w) ⟨[], t⟩ := by
  simp only [resolve, outcome_bind, outcome_get, hp, hnew, Bool.false_eq_true, if_false,
    outcome_changeRegistry] at hrun
  exact turns_of_resolveAll hrun

/-- When the dependencies of a package have been looked for, each has had one turn. It is left
without a target exactly if it had none before and was given up at that turn. -/
theorem open_iff_givenUp (source : ManifestSource) (w t : Workspace) (p : Package) (index : Nat)
    (d : Dependency) (hp : w.registry.find? p.manifest = some p) (hnew : p.isResolved = false)
    (hd : p.dependencies[index]? = some d)
    (hrun : outcome (resolve source p.manifest) w = (.ok (), t)) :
    ∃ rest u e, (∀ rest' u', Turns source (Round.of p w) ⟨⟨p.manifest, index⟩ :: rest', u'⟩ ↔
        rest' = rest ∧ u' = u) ∧
      t.registry.dependency? ⟨p.manifest, index⟩ = some e ∧
      (e.target = none ↔ d.target = none ∧ GivenUp source u.registry d) := by
  have htracks := tracks_of_new hp hd
  have hmem : ⟨p.manifest, index⟩ ∈ p.dependencyRefs :=
    mem_dependencyRefs.2 ⟨rfl, (List.getElem?_eq_some_iff.1 hd).1⟩
  have honce : p.dependencyRefs.count ⟨p.manifest, index⟩ ≤ 1 :=
    List.nodup_iff_count_le_one.1 (nodup_dependencyRefs p) _
  obtain ⟨rest, u, hfirst, hlast⟩ := exists_turn (turns_of_resolve hp hnew hrun) hmem
  obtain ⟨hbefore, hnot⟩ := htracks.at_turn honce hfirst
  obtain heq | ⟨b, hturn, hturns⟩ := hlast.cases_head
  · cases heq
  · obtain ⟨-, e, he, hiff⟩ := hbefore.exists_after_turn hnot hturn hturns
    refine ⟨rest, u, e, fun rest' u' => ⟨fun hother => ?_, ?_⟩, he, hiff⟩
    · exact htracks.turn_unique honce hfirst hother
    · rintro ⟨rfl, rfl⟩
      exact hfirst

/-- Where no dependency has a path to look for, their turns leave messages only. -/
theorem outcome_resolveAll_of_nowhere (h : ∀ ref ∈ refs, ∃ p d,
      w.registry.find? ref.manifest = some p ∧ p.dependencies[ref.index]? = some d ∧
        w.registry.choosePath d = "") :
    ∃ log, outcome (resolveAll source fuel refs) w = (.ok (), { w with log }) := by
  induction refs generalizing w with
  | nil => exact ⟨w.log, by rw [resolveAll]; rfl⟩
  | cons ref rest ih =>
    obtain ⟨⟨p, d, hp, hd, hpath⟩, hrest⟩ := List.forall_mem_cons.1 h
    rw [resolveAll, linkDependency]
    simp only [outcome_bind, outcome_get, hp, hd, hpath]
    exact ih hrest

theorem outcome_resolve_of_nowhere (hp : w.registry.find? key = some p)
    (hnew : p.isResolved = false) (h : ∀ d ∈ p.dependencies, w.registry.choosePath d = "") :
    ∃ log, outcome (resolve source key) w =
      (.ok (), { w with registry := w.registry.markResolved key, log }) := by
  simp only [resolve, outcome_bind, outcome_get, hp, hnew, Bool.false_eq_true, if_false,
    outcome_changeRegistry]
  refine outcome_resolveAll_of_nowhere fun ref href => ?_
  obtain ⟨hmanifest, hindex⟩ := mem_dependencyRefs.1 href
  refine ⟨{ p with isResolved := true }, p.dependencies[ref.index], ?_,
    List.getElem?_eq_getElem hindex, h _ (List.getElem_mem hindex)⟩
  rw [hmanifest.trans (find?_manifest hp)]
  exact find?_markResolved hp

/-- A machine without files. -/
def emptyHost : Host := { tree := .empty, cwd := [], environment := [], homes := [] }

/-- The package prefers the hint for its first dependency, but gives none, and there is nothing to
be found for the second one. -/
def preferringPackage : Package where
  manifest := "/a.lpk"
  name := "A"
  directory := "/"
  paths := {}
  dependencies := [⟨⟨"B", "", true⟩, none⟩, ⟨⟨"C", "", false⟩, none⟩]

def preferringWorkspace : Workspace where
  registry.packages := [preferringPackage,
    { manifest := "/b.lpk", name := "B", directory := "/", paths := {}, dependencies := [] }]
  registry.byName := [("a", "/a.lpk"), ("b", "/b.lpk")]

theorem outcome_resolve_preferring : ∃ log,
    outcome (resolve (.ofTable emptyHost []) "/a.lpk") preferringWorkspace = (.ok (),
      { preferringWorkspace with
        registry := preferringWorkspace.registry.markResolved "/a.lpk", log }) :=
  outcome_resolve_of_nowhere (p := preferringPackage) (by decide) rfl (by decide)

theorem dependency?_preferring (index : Nat) :
    (preferringWorkspace.registry.markResolved "/a.lpk").dependency? ⟨"/a.lpk", index⟩ =
      preferringPackage.dependencies[index]? := by
  have hfind : (preferringWorkspace.registry.markResolved "/a.lpk").find? "/a.lpk" =
      some { preferringPackage with isResolved := true } := by decide
  rw [dependency?_of_find? hfind]

/-- The second dependency is left without a target, as it is given up at its turn. -/
theorem open_iff_givenUp_preferring :
    preferringWorkspace.registry.find? "/a.lpk" = some preferringPackage ∧
      preferringPackage.isResolved = false ∧
      preferringPackage.dependencies[1]? = some ⟨⟨"C", "", false⟩, none⟩ ∧
      ∃ rest u, Turns (.ofTable emptyHost []) (Round.of preferringPackage preferringWorkspace)
          ⟨⟨"/a.lpk", 1⟩ :: rest, u⟩ ∧
        GivenUp (.ofTable emptyHost []) u.registry ⟨⟨"C", "", false⟩, none⟩ := by
  have hfind : preferringWorkspace.registry.find? "/a.lpk" = some preferringPackage := by decide
  obtain ⟨log, hrun⟩ := outcome_resolve_preferring
  obtain ⟨rest, u, e, hturn, he, hiff⟩ := open_iff_givenUp (.ofTable emptyHost [])
    preferringWorkspace _ preferringPackage 1 _ hfind rfl rfl hrun
  rw [show preferringPackage.manifest = "/a.lpk" from rfl, dependency?_preferring] at he
  obtain rfl := Option.some.inj he
  exact ⟨hfind, rfl, rfl, rest, u, (hturn rest u).2 ⟨rfl, rfl⟩,
    (hiff.1 rfl).2⟩

/-- A package of the name is registered when the first dependency has its turn. The dependency is
left without a target all the same, and no manifest is asked for. -/
theorem open_preferring : ∃ rest u,
    Turns (.ofTable emptyHost []) (Round.of preferringPackage preferringWorkspace)
      ⟨⟨"/a.lpk", 0⟩ :: rest, u⟩ ∧
    u.registry.lookup? "B" = some "/b.lpk" ∧
    ∃ t, outcome (resolve (.ofTable emptyHost []) "/a.lpk") preferringWorkspace = (.ok (), t) ∧
      t.registry.dependency? ⟨"/a.lpk", 0⟩ = some ⟨⟨"B", "", true⟩, none⟩ ∧
      t.registry.requested = [] := by
  have hlookup : (Round.of preferringPackage preferringWorkspace).workspace.registry.lookup? "B" =
      some "/b.lpk" := by decide
  obtain ⟨log, hrun⟩ := outcome_resolve_preferring
  exact ⟨[⟨"/a.lpk", 1⟩], _, .refl, hlookup, _, hrun, dependency?_preferring 0, rfl⟩

end Workspace

end PascalWorkspace
