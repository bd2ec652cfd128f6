import PascalWorkspace.Proofs.Package.Roots

/-! Merging search paths where no package needs itself. What a merge reads of other packages is
complete, whatever has been merged before: a package that is merged has the closed form of its
paths, and so has everything it needs. -/
namespace PascalWorkspace

namespace Registry

variable {r s t : Registry} {key other target : String} {f : Package → Package}
  {hr : r.Acyclic} {keys : List String}

def isMergedAt (r : Registry) (key : String) : Bool :=
  ((r.find? key).map (·.isMerged)).getD false

/-- Whether a package has been merged, and its paths as far as they have been merged. -/
def mergeState (r : Registry) (key : String) : Option (Bool × SearchPaths) :=
  (r.find? key).map fun p => (p.isMerged, p.mergedPaths)

/-- A package, if it is registered, has been merged to the closed form of another registry. -/
def FlatAt (r : Registry) (hr : r.Acyclic) (s : Registry) (key : String) : Prop :=
  ∀ state, s.mergeState key = some state → state = (true, r.flat hr key)

/-- Everything that a package needs has been merged to the closed form. -/
def Done (r : Registry) (hr : r.Acyclic) (s : Registry) (key : String) : Prop :=
  ∀ q, r.Needed key q → r.FlatAt hr s q

theorem isMergedAt_eq : s.isMergedAt key = ((s.mergeState key).map Prod.fst).getD false := by
  rw [isMergedAt, mergeState, Option.map_map]
  rfl

theorem mergeState_of_find? {p : Package} (h : s.find? key = some p) :
    s.mergeState key = some (p.isMerged, p.mergedPaths) := by
  rw [mergeState, h, Option.map_some]

section Update

variable (hf : ∀ p, (f p).manifest = p.manifest)
include hf

theorem mergeState_update_self : (s.update key f).mergeState key =
    (s.find? key).map fun p => ((f p).isMerged, (f p).mergedPaths) := by
  simp [mergeState, find?_update hf, Function.comp_def]

theorem mergeState_update_of_ne (hne : other ≠ key) :
    (s.update key f).mergeState other = s.mergeState other := by
  rw [mergeState, find?_update_of_ne hf hne, mergeState]

theorem isMergedAt_update (hmerged : ∀ p, (f p).isMerged = p.isMerged) :
    (s.update key f).isMergedAt other = s.isMergedAt other := by
  rw [isMergedAt, map_find?_update hf hmerged, isMergedAt]

end Update

theorem mergeState_beginMerge_self {p : Package} (hp : s.find? key = some p) :
    (s.beginMerge key).mergeState key = some (true, p.paths) := by
  rw [beginMerge, mergeState_update_self, hp, Option.map_some]
  exact fun _ => rfl

theorem mergeState_beginMerge_of_ne (hne : other ≠ key) :
    (s.beginMerge key).mergeState other = s.mergeState other :=
  mergeState_update_of_ne (fun _ => rfl) hne

theorem mergeState_appendPaths_of_ne (hne : other ≠ key) :
    (s.appendPaths key target).mergeState other = s.mergeState other := by
  unfold appendPaths
  split
  · rfl
  · exact mergeState_update_of_ne (fun _ => rfl) hne

/-- Appending what has been merged completely appends the closed form. -/
theorem mergeState_appendPaths_self (hs : SameGraph r s) (h : r.FlatAt hr s target) :
    (s.appendPaths key target).mergeState key =
      (s.mergeState key).map fun state => (state.1, state.2 ++ r.flat hr target) := by
  unfold appendPaths
  split
  · next hnone =>
    have hunknown : r.find? target = none := by
      rw [← Option.not_isSome_iff_eq_none, ← hs.isSome_find?, hnone]
      exact Bool.false_ne_true
    simp [flat_of_find?_eq_none hr hunknown]
  · next t ht =>
    have hpaths : t.mergedPaths = r.flat hr target :=
      congrArg Prod.snd (h _ (mergeState_of_find? ht))
    rw [mergeState_update_self, mergeState, Option.map_map, ← hpaths]
    · rfl
    · exact fun _ => rfl

/-! ### Merging -/

theorem mergeAll_append (before later : List MergeTask) :
    s.mergeAll (before ++ later) = (s.mergeAll before).mergeAll later := by
  fun_induction mergeAll s before with
  | case1 s => rfl
  | case2 s key target rest ih => rw [List.cons_append, mergeAll, ih]
  | case3 s key rest hfind ih => rw [List.cons_append, mergeAll_of_unknown hfind, ih]
  | case4 s key rest p hfind hp ih =>
    rw [List.cons_append, mergeAll_of_known hfind, if_pos hp, ih]
  | case5 s key rest p hfind hp ih =>
    rw [List.cons_append, mergeAll_of_known hfind, if_neg hp, ← List.append_assoc, ih]

/-- A package that is not registered or has been merged is left as it is. -/
theorem mergePaths_of_done (h : (s.find? key).isSome → s.isMergedAt key = true) :
    s.mergePaths key = s := by
  cases hp : s.find? key with
  | none => rw [mergePaths, mergeAll_of_unknown hp, mergeAll]
  | some p =>
    rw [isMergedAt, hp] at h
    rw [mergePaths, mergeAll_of_known hp, if_pos (by simpa using h), mergeAll]

/-- Merges packages in turn, each time with their paths appended to those of another. -/
def mergeTargets (s : Registry) (key : String) (targets : List String) : Registry :=
  targets.foldl (fun t target => (t.mergePaths target).appendPaths key target) s

theorem mergeTargets_cons (target : String) (targets : List String) :
    s.mergeTargets key (target :: targets) =
      ((s.mergePaths target).appendPaths key target).mergeTargets key targets := rfl

theorem mergeAll_targets (targets : List String) :
    s.mergeAll (targets.flatMap fun target => [.merge target, .append key target]) =
      s.mergeTargets key targets := by
  induction targets generalizing s with
  | nil =>
    rw [List.flatMap_nil, mergeAll]
    rfl
  | cons target targets ih =>
    rw [List.flatMap_cons, List.cons_append, List.singleton_append, ← List.singleton_append,
      mergeAll_append, mergeAll, ih, mergeTargets_cons, mergePaths]

/-- A package that has not been merged has its own paths first, then those of each target. -/
theorem mergePaths_of_find? {p : Package} (hp : s.find? key = some p) (hnew : p.isMerged = false) :
    s.mergePaths key = (s.beginMerge key).mergeTargets key p.targets := by
  obtain rfl := find?_manifest hp
  rw [mergePaths, mergeAll_of_known hp, if_neg (by simp [hnew]), List.append_nil, mergeTasks,
    mergeAll_targets]

theorem isMergedAt_beginMerge (h : (s.find? key).isSome) :
    (s.beginMerge key).isMergedAt other = (other == key || s.isMergedAt other) := by
  obtain ⟨p, hp⟩ := Option.isSome_iff_exists.1 h
  by_cases hne : other = key
  · rw [hne, isMergedAt_eq, mergeState_beginMerge_self hp]
    simp
  · rw [isMergedAt_eq, mergeState_beginMerge_of_ne hne, ← isMergedAt_eq]
    simp [hne]

theorem isMergedAt_appendPaths :
    (s.appendPaths key target).isMergedAt other = s.isMergedAt other := by
  unfold appendPaths
  split
  · rfl
  · exact isMergedAt_update (fun _ => rfl) fun _ => rfl

/-- What has been merged stays merged. -/
theorem isMergedAt_mergeAll (tasks : List MergeTask) (h : s.isMergedAt other = true) :
    (s.mergeAll tasks).isMergedAt other = true := by
  fun_induction mergeAll s tasks with
  | case1 s => exact h
  | case2 s key target rest ih => exact ih (isMergedAt_appendPaths.trans h)
  | case3 s key rest hfind ih => exact ih h
  | case4 s key rest p hfind hp ih => exact ih h
  | case5 s key rest p hfind hp ih =>
    refine ih ?_
    rw [isMergedAt_beginMerge (by simp [hfind]), h, Bool.or_true]

theorem isMergedAt_mergePaths (h : (s.find? key).isSome) :
    (s.mergePaths key).isMergedAt key = true := by
  obtain ⟨p, hp⟩ := Option.isSome_iff_exists.1 h
  cases hnew : p.isMerged with
  | true =>
    have hmerged : s.isMergedAt key = true := by simp [isMergedAt, hp, hnew]
    rwa [mergePaths_of_done fun _ => hmerged]
  | false =>
    rw [mergePaths_of_find? hp hnew, ← mergeAll_targets]
    apply isMergedAt_mergeAll
    rw [isMergedAt_beginMerge h, beq_self_eq_true, Bool.true_or]

/-! ### What a merge completes -/

/-- Whatever has been merged of what a package needs is complete. -/
def Clean (r : Registry) (hr : r.Acyclic) (s : Registry) (key : String) : Prop :=
  ∀ q, r.Needed key q → s.isMergedAt q = true → r.Done hr s q

/-- What a package needs has been completed, and nothing else has been touched. -/
structure Merges (r : Registry) (hr : r.Acyclic) (key : String) (s t : Registry) : Prop where
  done : r.Done hr t key
  others : ∀ q, ¬ r.Needed key q → t.mergeState q = s.mergeState q

/-- The targets of a package have been completed and appended to its own paths in turn. -/
structure Appends (r : Registry) (hr : r.Acyclic) (key : String) (targets : List String)
    (s t : Registry) : Prop where
  done : ∀ target ∈ targets, r.Done hr t target
  others : ∀ q, q ≠ key → (∀ target ∈ targets, ¬ r.Needed target q) →
    t.mergeState q = s.mergeState q
  own : t.mergeState key = (s.mergeState key).map fun state =>
    (state.1, state.2 ++ .concat (targets.map (r.flat hr)))

theorem Acyclic.not_needed (hr : r.Acyclic) (h : r.Needs key target) : ¬ r.Needed target key :=
  fun hback => hr key (.head' h hback)

theorem Done.of_needed {q : String} (h : r.Done hr s key) (hq : r.Needed key q) : r.Done hr s q :=
  fun x hx => h x (hq.trans hx)

theorem FlatAt.congr (h : r.FlatAt hr s key) (heq : t.mergeState key = s.mergeState key) :
    r.FlatAt hr t key := fun state hstate => h state (heq.symm.trans hstate)

theorem Done.congr (h : r.Done hr s key)
    (heq : ∀ q, r.Needed key q → t.mergeState q = s.mergeState q) : r.Done hr t key :=
  fun q hq => (h q hq).congr (heq q hq)

theorem Merges.keeps_done (h : r.Merges hr key s t) (hother : r.Done hr s other) :
    r.Done hr t other := by
  intro q hq
  by_cases hkey : r.Needed key q
  · exact h.done q hkey
  · exact (hother q hq).congr (h.others q hkey)

theorem Merges.clean (h : r.Merges hr key s t) (hother : r.Clean hr s other) :
    r.Clean hr t other := by
  intro q hq hmerged
  by_cases hkey : r.Needed key q
  · exact h.done.of_needed hkey
  · rw [isMergedAt_eq, h.others q hkey, ← isMergedAt_eq] at hmerged
    exact h.keeps_done (hother q hq hmerged)

/-- Work on the paths of a package does not touch what its targets need. -/
theorem Done.of_own (h : r.Done hr s target) (hneeds : r.Needs key target)
    (heq : ∀ q, q ≠ key → t.mergeState q = s.mergeState q) : r.Done hr t target := by
  refine h.congr fun q hq => heq q ?_
  rintro rfl
  exact hr.not_needed hneeds hq

theorem Clean.of_own (h : r.Clean hr s target) (hneeds : r.Needs key target)
    (heq : ∀ q, q ≠ key → t.mergeState q = s.mergeState q) : r.Clean hr t target := by
  intro q hq hmerged
  have hne : q ≠ key := by
    rintro rfl
    exact hr.not_needed hneeds hq
  rw [isMergedAt_eq, heq q hne, ← isMergedAt_eq] at hmerged
  refine (h q hq hmerged).congr fun x hx => heq x ?_
  rintro rfl
  exact hr.not_needed hneeds (hq.trans hx)

theorem appends_nil : r.Appends hr key [] s s :=
  ⟨fun _ h => (nomatch h), fun _ _ _ => rfl, by simp [SearchPaths.concat]⟩

/-- One target more in front. -/
theorem Appends.cons {u : Registry} {targets : List String} (ht : SameGraph r t)
    (hneeds : r.Needs key target) (hmerge : r.Merges hr target s t)
    (h : r.Appends hr key targets (t.appendPaths key target) u) :
    r.Appends hr key (target :: targets) s u := by
  have hown (q : String) (hne : q ≠ key) :
      (t.appendPaths key target).mergeState q = t.mergeState q := mergeState_appendPaths_of_ne hne
  refine ⟨List.forall_mem_cons.2 ⟨?_, h.done⟩, fun q hne hq => ?_, ?_⟩
  · have hdone := hmerge.done.of_own hneeds hown
    intro q hq
    -- A later target may need the same package; then its own merge completed it again.
    by_cases hlater : ∃ other ∈ targets, r.Needed other q
    · obtain ⟨other, hother, hneeded⟩ := hlater
      exact h.done other hother q hneeded
    · have hne : q ≠ key := by
        rintro rfl
        exact hr.not_needed hneeds hq
      exact (hdone q hq).congr (h.others q hne (by simpa using hlater))
  · obtain ⟨hhead, htail⟩ := List.forall_mem_cons.1 hq
    rw [h.others q hne htail, hown q hne, hmerge.others q hhead]
  · rw [h.own, mergeState_appendPaths_self ht (hmerge.done target .refl),
      hmerge.others key (hr.not_needed hneeds), Option.map_map]
    simp [Function.comp_def, SearchPaths.concat, SearchPaths.append_assoc]

theorem appends_mergeTargets (hs : SameGraph r s) (targets : List String)
    (hneeds : ∀ target ∈ targets, r.Needs key target)
    (hclean : ∀ target ∈ targets, r.Clean hr s target)
    (ih : ∀ target, r.Needs key target → ∀ s, SameGraph r s → r.Clean hr s target →
      r.Merges hr target s (s.mergePaths target)) :
    r.Appends hr key targets s (s.mergeTargets key targets) := by
  induction targets generalizing s with
  | nil => exact appends_nil
  | cons target targets ihTargets =>
    obtain ⟨hhead, htail⟩ := List.forall_mem_cons.1 hneeds
    have hmerge := ih target hhead s hs (hclean target List.mem_cons_self)
    have ht : SameGraph r (s.mergePaths target) := hs.trans sameGraph_mergePaths
    rw [mergeTargets_cons]
    refine .cons ht hhead hmerge (ihTargets (ht.trans sameGraph_appendPaths) htail ?_)
    intro other hother
    have hother' := hmerge.clean (hclean other (List.mem_cons_of_mem _ hother))
    exact hother'.of_own (htail other hother) fun q hne => mergeState_appendPaths_of_ne hne

theorem done_of_find?_eq_none (hs : SameGraph r s) (h : s.find? key = none) : r.Done hr s key := by
  intro q hq
  obtain rfl | ⟨target, hneeds, -⟩ := hq.cases_head
  · intro state hstate
    simp [mergeState, h] at hstate
  · have hsome := isSome_find?_of_needs hneeds
    rw [← hs.isSome_find?, h] at hsome
    cases hsome

/-- With all its targets completed, a package is complete itself. -/
theorem Appends.merges {p : Package} (hs : SameGraph r s) (hp : s.find? key = some p)
    (h : r.Appends hr key (r.targetsOf key) (s.beginMerge key) t) : r.Merges hr key s t := by
  have hpaths : r.pathsOf key = p.paths := by rw [← hs.pathsOf, pathsOf_of_find? hp]
  refine ⟨fun q hq => ?_, fun q hq => ?_⟩
  · obtain rfl | ⟨target, hneeds, hq⟩ := hq.cases_head
    · intro state hstate
      rw [h.own, mergeState_beginMerge_self hp, Option.map_some] at hstate
      rw [← Option.some.inj hstate, flat_eq, hpaths]
    · exact h.done target hneeds q hq
  · have hne : q ≠ key := by
      rintro rfl
      exact hq .refl
    rw [h.others q hne fun target hneeds hback => hq (.head hneeds hback)]
    exact mergeState_beginMerge_of_ne hne

/-- Where everything merged so far of what a package needs is complete, merging the package
completes all that it needs. -/
theorem merges_mergePaths (hs : SameGraph r s) (hclean : r.Clean hr s key) :
    r.Merges hr key s (s.mergePaths key) := by
  induction key using hr.wellFounded.induction generalizing s with
  | _ key ih =>
    cases hp : s.find? key with
    | none =>
      rw [mergePaths_of_done (by simp [hp])]
      exact ⟨done_of_find?_eq_none hs hp, fun _ _ => rfl⟩
    | some p =>
      cases hnew : p.isMerged with
      | true =>
        have hmerged : s.isMergedAt key = true := by simp [isMergedAt, hp, hnew]
        rw [mergePaths_of_done fun _ => hmerged]
        exact ⟨hclean key .refl hmerged, fun _ _ => rfl⟩
      | false =>
        -- The package counts as merged from here on, but none of its targets leads back to it.
        have hbegin : SameGraph r (s.beginMerge key) := hs.trans sameGraph_beginMerge
        have htargets : p.targets = r.targetsOf key := by
          rw [← hs.targetsOf, targetsOf_of_find? hp]
        rw [mergePaths_of_find? hp hnew, htargets]
        have hbelow (target : String) (hneeds : r.Needs key target) :
            r.Clean hr (s.beginMerge key) target := by
          have hbefore : r.Clean hr s target := fun q hq => hclean q (.head hneeds hq)
          exact hbefore.of_own hneeds fun q hne => mergeState_beginMerge_of_ne hne
        have happends := appends_mergeTargets hbegin (r.targetsOf key) (fun _ h => h) hbelow
          fun target hneeds s hs hclean => ih target hneeds hs hclean
        exact happends.merges hs hp

/-! ### Any order of merges -/

/-- The packages are those of another registry, and everything merged so far is complete, unless
some package needs itself. -/
structure Orderly (r s : Registry) : Prop where
  same : SameGraph r s
  done : ∀ (hr : r.Acyclic) key, s.isMergedAt key = true → r.Done hr s key

theorem Orderly.mergePaths (h : Orderly r s) (key : String) : Orderly r (s.mergePaths key) := by
  refine ⟨h.same.trans sameGraph_mergePaths, fun hr q hmerged => ?_⟩
  have hmerge : r.Merges hr key s (s.mergePaths key) :=
    merges_mergePaths h.same fun q _ => h.done hr q
  by_cases hq : r.Needed key q
  · exact hmerge.done.of_needed hq
  · rw [isMergedAt_eq, hmerge.others q hq, ← isMergedAt_eq] at hmerged
    exact hmerge.keeps_done (h.done hr q hmerged)

/-- Where no package has been merged there is nothing to complete. -/
theorem orderly_of_unmerged (h : r.Unmerged) : Orderly r r := by
  refine ⟨rfl, fun hr key hmerged => ?_⟩
  cases hp : r.find? key with
  | none => simp [isMergedAt, hp] at hmerged
  | some p => simp [isMergedAt, hp, h p (find?_mem hp)] at hmerged

theorem Orderly.mergedPaths {p : Package} (h : Orderly r s) (hr : r.Acyclic)
    (hp : s.find? key = some p) (hmerged : p.isMerged = true) : p.mergedPaths = r.flat hr key := by
  have hdone := h.done hr key (by simp [isMergedAt, hp, hmerged])
  exact congrArg Prod.snd (hdone key .refl _ (mergeState_of_find? hp))

section Publish

variable {β : Type} {view : Package → β}
  (hview : ∀ p : Package, view { p with isPublished := true } = view p)
include hview

theorem map_find?_markPublished :
    ((s.markPublished key).find? other).map view = (s.find? other).map view := by
  refine map_find?_update ?_ hview
  exact fun _ => rfl

/-- Publishing leaves all of a package alone but that it is published. -/
theorem map_find?_publishAll (tree : DefineTree) (pending : List String) :
    ((s.publishAll tree pending).1.find? other).map view = (s.find? other).map view := by
  fun_induction publishAll s tree pending with
  | case1 s tree => rfl
  | case2 s tree key rest hfind ih => exact ih
  | case3 s tree key rest p hfind hp ih => exact ih
  | case4 s tree key rest p hfind hp ih => exact ih.trans (map_find?_markPublished hview)

end Publish

theorem mergeState_publishAll (tree : DefineTree) (pending : List String) :
    (s.publishAll tree pending).1.mergeState other = s.mergeState other :=
  map_find?_publishAll (fun _ => rfl) tree pending

theorem Orderly.congr (h : Orderly r s) (hsame : SameGraph s t)
    (heq : ∀ key, t.mergeState key = s.mergeState key) : Orderly r t := by
  refine ⟨h.same.trans hsame, fun hr key hmerged => ?_⟩
  rw [isMergedAt_eq, heq, ← isMergedAt_eq] at hmerged
  exact (h.done hr key hmerged).congr fun q _ => heq q

/-! ### What lasts while packages are merged and published -/

/-- A property of registries with the packages of one of them. Merging keeps it, and so does
everything that leaves the merged paths alone. -/
structure Lasting (r : Registry) (I : Registry → Prop) : Prop where
  same : ∀ ⦃s⦄, I s → SameGraph r s
  mergePaths : ∀ ⦃s⦄ key, I s → I (s.mergePaths key)
  congr : ∀ ⦃s t⦄, SameGraph s t → (∀ key, t.mergeState key = s.mergeState key) → I s → I t

theorem lasting_orderly : Lasting r (Orderly r) :=
  ⟨fun _ => Orderly.same, fun _ key h => h.mergePaths key, fun _ _ hsame heq h => h.congr hsame heq⟩

/-- A property is kept, and what was merged has stayed merged. -/
def Finishes (I : Registry → Prop) (s t : Registry) : Prop :=
  I s → I t ∧ ∀ key, s.isMergedAt key = true → t.isMergedAt key = true

instance {I : Registry → Prop} : IsPreorder Registry (Finishes I) where
  refl _ h := ⟨h, fun _ hkey => hkey⟩
  trans _ _ _ hst htu h := by
    obtain ⟨ht, hkeys⟩ := hst h
    obtain ⟨hu, hlater⟩ := htu ht
    exact ⟨hu, fun key hkey => hlater key (hkeys key hkey)⟩

section Finish

variable {I : Registry → Prop} (hI : Lasting r I)
include hI

theorem finishes_mergePaths : Finishes I s (s.mergePaths key) :=
  fun h => ⟨hI.mergePaths key h, fun _ => isMergedAt_mergeAll _⟩

theorem finishes_of_mergeState (hsame : SameGraph s t)
    (heq : ∀ key, t.mergeState key = s.mergeState key) : Finishes I s t := by
  refine fun h => ⟨hI.congr hsame heq h, fun key hkey => ?_⟩
  rwa [isMergedAt_eq, heq, ← isMergedAt_eq]

theorem finishes_publish (tree : DefineTree) : Finishes I s (s.publish tree key).1 :=
  finishes_of_mergeState hI (sameGraph_publishAll _ _) fun _ => mergeState_publishAll _ _

theorem finishes_foldl : Finishes I s (keys.foldl mergePaths s) := by
  induction keys generalizing s with
  | nil => exact refl_of (Finishes I) s
  | cons key keys ih => exact trans_of (Finishes I) (finishes_mergePaths hI) ih

end Finish

theorem sameGraph_foldl : SameGraph s (keys.foldl mergePaths s) := by
  induction keys generalizing s with
  | nil => rfl
  | cons key keys ih => exact sameGraph_mergePaths.trans ih

theorem isMergedAt_foldl_of_merged (h : s.isMergedAt key = true) :
    (keys.foldl mergePaths s).isMergedAt key = true := by
  induction keys generalizing s with
  | nil => exact h
  | cons first keys ih => exact ih (isMergedAt_mergeAll _ h)

theorem isMergedAt_foldl (hkey : key ∈ keys) (hsome : (s.find? key).isSome) :
    (keys.foldl mergePaths s).isMergedAt key = true := by
  induction keys generalizing s with
  | nil => cases hkey
  | cons first keys ih =>
    rw [List.foldl_cons]
    obtain rfl | hmem := List.mem_cons.1 hkey
    · exact isMergedAt_foldl_of_merged (isMergedAt_mergePaths hsome)
    · refine ih hmem ?_
      rwa [sameGraph_mergePaths.isSome_find?]

end Registry

end PascalWorkspace
