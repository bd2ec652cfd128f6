import PascalWorkspace.Proofs.Package.Reach

/-! Merging search paths in any graph. A package that is still being merged contributes what it has
so far, so a package may miss paths of those that lead back to it. It misses none of the others, and
of some packages that need each other the first to be merged has the paths of them all. -/
namespace PascalWorkspace

namespace SearchPaths

variable {a b c : SearchPaths}

/-- Each of the three lists is contained in the other's. -/
instance : HasSubset SearchPaths where
  Subset a b := a.units ⊆ b.units ∧ a.includes ⊆ b.includes ∧ a.sources ⊆ b.sources

instance (a b : SearchPaths) : Decidable (a ⊆ b) :=
  inferInstanceAs (Decidable (a.units ⊆ b.units ∧ a.includes ⊆ b.includes ∧ a.sources ⊆ b.sources))

theorem subset_refl (a : SearchPaths) : a ⊆ a :=
  ⟨List.Subset.refl a.units, List.Subset.refl a.includes, List.Subset.refl a.sources⟩

theorem subset_trans (hab : a ⊆ b) (hbc : b ⊆ c) : a ⊆ c :=
  ⟨List.Subset.trans hab.1 hbc.1, List.Subset.trans hab.2.1 hbc.2.1,
    List.Subset.trans hab.2.2 hbc.2.2⟩

theorem empty_subset (a : SearchPaths) : {} ⊆ a :=
  ⟨List.nil_subset a.units, List.nil_subset a.includes, List.nil_subset a.sources⟩

theorem subset_append_left (a b : SearchPaths) : a ⊆ a ++ b :=
  ⟨List.subset_append_left a.units b.units, List.subset_append_left a.includes b.includes,
    List.subset_append_left a.sources b.sources⟩

theorem subset_append_right (a b : SearchPaths) : b ⊆ a ++ b :=
  ⟨List.subset_append_right a.units b.units, List.subset_append_right a.includes b.includes,
    List.subset_append_right a.sources b.sources⟩

end SearchPaths

namespace Registry

variable {r s t u : Registry} {key target x y : String} {p : Package} {busy : Set String}
  {targets : List String}

/-- The search paths that have been merged into a package so far. -/
def mergedOf (s : Registry) (key : String) : SearchPaths :=
  ((s.find? key).map (·.mergedPaths)).getD {}

/-- Two packages need each other. -/
def Mutual (r : Registry) (x y : String) : Prop := r.Needed x y ∧ r.Needed y x

/-- A package has been merged between two states of a registry. -/
def Fresh (s t : Registry) (x : String) : Prop := s.isMergedAt x = false ∧ t.isMergedAt x = true

/-- A package needs another one directly, which does not lead back to it. -/
def Leads (r : Registry) (x y : String) : Prop := r.Needs x y ∧ ¬ r.Needed y x

theorem Mutual.symm (h : r.Mutual x y) : r.Mutual y x := ⟨h.2, h.1⟩

theorem Mutual.trans {z : String} (h : r.Mutual x y) (h' : r.Mutual y z) : r.Mutual x z :=
  ⟨h.1.trans h'.1, h'.2.trans h.2⟩

theorem mergedOf_of_find? (hp : s.find? key = some p) : s.mergedOf key = p.mergedPaths := by
  simp [mergedOf, hp]

theorem mergedOf_of_find?_eq_none (h : s.find? key = none) : s.mergedOf key = {} := by
  simp [mergedOf, h]

theorem pathsOf_of_find?_eq_none (h : s.find? key = none) : s.pathsOf key = {} := by
  simp [pathsOf, h]

theorem mergedOf_congr (h : t.mergeState key = s.mergeState key) :
    t.mergedOf key = s.mergedOf key := by
  have hview (q : Registry) : q.mergedOf key = ((q.mergeState key).map Prod.snd).getD {} := by
    rw [mergedOf, mergeState, Option.map_map]
    rfl
  rw [hview, hview, h]

theorem isMergedAt_congr (h : t.mergeState key = s.mergeState key) :
    t.isMergedAt key = s.isMergedAt key := by
  rw [isMergedAt_eq, isMergedAt_eq, h]

theorem mergedOf_beginMerge_self (hp : s.find? key = some p) :
    (s.beginMerge key).mergedOf key = p.paths := by
  have hstate := mergeState_beginMerge_self hp
  obtain ⟨q, hq, hview⟩ := Option.map_eq_some_iff.1 hstate
  rw [mergedOf_of_find? hq, (Prod.mk.inj hview).2]

theorem mergedOf_beginMerge_of_ne (hne : x ≠ key) : (s.beginMerge key).mergedOf x = s.mergedOf x :=
  mergedOf_congr (mergeState_beginMerge_of_ne hne)

theorem mergedOf_appendPaths_self (hkey : (s.find? key).isSome) :
    (s.appendPaths key target).mergedOf key = s.mergedOf key ++ s.mergedOf target := by
  unfold appendPaths
  split
  · next hnone => rw [mergedOf_of_find?_eq_none hnone, SearchPaths.append_empty]
  · next t ht =>
    obtain ⟨p, hp⟩ := Option.isSome_iff_exists.1 hkey
    let append (q : Package) : Package := { q with mergedPaths := q.mergedPaths ++ t.mergedPaths }
    have hfind : (s.update key append).find? key =
        (s.find? key).map fun q => if key = key then append q else q := find?_update fun _ => rfl
    rw [hp, Option.map_some, if_pos rfl] at hfind
    rw [mergedOf_of_find? hfind, mergedOf_of_find? hp, mergedOf_of_find? ht]

theorem mergedOf_appendPaths_of_ne (hne : x ≠ key) :
    (s.appendPaths key target).mergedOf x = s.mergedOf x :=
  mergedOf_congr (mergeState_appendPaths_of_ne hne)

theorem SameGraph.needed_eq (h : SameGraph r s) : s.Needed = r.Needed := by
  rw [Needed, h.needs_eq]

theorem SameGraph.mutual_eq (h : SameGraph r s) : s.Mutual = r.Mutual := by
  funext x y
  rw [Mutual, h.needed_eq, Mutual]

theorem SameGraph.leads_eq (h : SameGraph r s) : s.Leads = r.Leads := by
  funext x y
  rw [Leads, h.needs_eq, h.needed_eq, Leads]

theorem unmerged_mergeAll_le (tasks : List MergeTask) :
    (s.mergeAll tasks).unmerged ≤ s.unmerged := by
  fun_induction mergeAll s tasks with
  | case1 s => exact Nat.le_refl _
  | case2 s key target rest ih => rwa [unmerged_appendPaths] at ih
  | case3 s key rest hfind ih => exact ih
  | case4 s key rest p hfind hp ih => exact ih
  | case5 s key rest p hfind hp ih =>
    exact ih.trans (unmerged_beginMerge hfind (by simpa using hp)).le

/-! ### What a merge makes complete -/

/-- Every merged package has the paths that it declares. -/
structure Owned (r s : Registry) : Prop where
  same : SameGraph r s
  own : ∀ x, s.isMergedAt x = true → r.pathsOf x ⊆ s.mergedOf x

/-- A dependency has been taken into account. If its target does not lead back then all that has
been merged into the target has been. -/
structure Served (r t : Registry) (x y : String) : Prop where
  merged : (r.find? y).isSome → t.isMergedAt y = true
  declared : r.pathsOf y ⊆ t.mergedOf x
  linked : ¬ r.Needed y x → t.mergedOf y ⊆ t.mergedOf x

/-- Packages have been merged, each for one that was still busy with its own merge. Those and no
others may have changed although they were merged before. -/
structure Fills (r : Registry) (busy : Set String) (s t : Registry) : Prop where
  before : SameGraph r s
  owned : Owned r t
  stays : ∀ x, s.isMergedAt x = true → t.isMergedAt x = true
  kept : ∀ x ∉ busy, s.isMergedAt x = true → t.mergedOf x = s.mergedOf x
  begun : ∀ x ∈ busy, s.isMergedAt x = true ∧ ∀ y, Fresh s t y → r.Needed x y
  served : ∀ x y, Fresh s t x → r.Needs x y → Served r t x y
  /-- If none of some packages that need each other was merged before, then the first has all. -/
  headed : ∀ x, Fresh s t x → (∀ q, r.Mutual x q → s.isMergedAt q = false) →
    ∃ first, r.Mutual x first ∧ ∀ q, r.Mutual x q → t.mergedOf q ⊆ t.mergedOf first

theorem not_fresh_of_eq (h : t.isMergedAt x = s.isMergedAt x) : ¬ Fresh s t x := by
  rintro ⟨hs, ht⟩
  simp [h, hs] at ht

theorem fresh_cases (h : Fresh s u x) : t.isMergedAt x = true ∧ Fresh s t x ∨ Fresh t u x := by
  cases ht : t.isMergedAt x with
  | true => exact .inl ⟨rfl, h.1, ht⟩
  | false => exact .inr ⟨ht, h.2⟩

theorem Fills.kept_of_registered (h : Fills r busy s t) (hx : x ∉ busy)
    (hmerged : (r.find? x).isSome → s.isMergedAt x = true) : t.mergedOf x = s.mergedOf x := by
  by_cases hsome : (r.find? x).isSome
  · exact h.kept x hx (hmerged hsome)
  · have hs : s.find? x = none := by
      rwa [← Option.not_isSome_iff_eq_none, h.before.isSome_find?]
    have ht : t.find? x = none := by
      rwa [← Option.not_isSome_iff_eq_none, h.owned.same.isSome_find?]
    rw [mergedOf_of_find?_eq_none hs, mergedOf_of_find?_eq_none ht]

theorem Served.later (h : Served r s x y) (hfills : Fills r busy s t)
    (hmerged : s.isMergedAt x = true) (hx : x ∉ busy) (hy : y ∈ busy → r.Needed y x) :
    Served r t x y := by
  have hkept : t.mergedOf x = s.mergedOf x := hfills.kept x hx hmerged
  refine ⟨fun hsome => hfills.stays y (h.merged hsome), by rw [hkept]; exact h.declared, ?_⟩
  intro hback
  have hidle : y ∉ busy := fun hbusy => hback (hy hbusy)
  rw [hkept, hfills.kept_of_registered hidle h.merged]
  exact h.linked hback

/-- A busy package is merged already. -/
theorem Fills.idle (h : Fills r busy s t) (hx : s.isMergedAt x = false) : x ∉ busy := by
  intro hbusy
  simp [(h.begun x hbusy).1] at hx

/-- If one of some packages that need each other is merged then all of them are. -/
theorem fresh_of_mutual (ht : SameGraph r t)
    (hserved : ∀ x y, Fresh s t x → r.Needs x y → Served r t x y) (hx : Fresh s t x)
    (hgroup : ∀ q, r.Mutual x q → s.isMergedAt q = false) (hy : r.Mutual x y) : Fresh s t y := by
  obtain ⟨hway, hback⟩ := hy
  induction hway with
  | refl => exact hx
  | @tail b c hb hneeds ih =>
    have hbx : r.Needed b x := .head hneeds hback
    have hsome : (r.find? c).isSome := by
      refine isSome_find?_of_needed hback ?_
      rw [← ht.isSome_find?]
      exact isSome_find?_of_isMergedAt hx.2
    exact ⟨hgroup c ⟨hb.tail hneeds, hback⟩, (hserved b c (ih hbx) hneeds).merged hsome⟩

/-- Nothing has been merged, and at most the busy packages have changed. -/
theorem fills_of_isMergedAt_eq (hs : Owned r s) (ht : Owned r t)
    (hbusy : ∀ x ∈ busy, s.isMergedAt x = true) (heq : ∀ x, t.isMergedAt x = s.isMergedAt x)
    (hkept : ∀ x ∉ busy, t.mergedOf x = s.mergedOf x) : Fills r busy s t where
  before := hs.same
  owned := ht
  stays x hx := (heq x).trans hx
  kept x hx _ := hkept x hx
  begun x hx := ⟨hbusy x hx, fun y hy => absurd hy (not_fresh_of_eq (heq y))⟩
  served x _ hx := absurd hx (not_fresh_of_eq (heq x))
  headed x hx := absurd hx (not_fresh_of_eq (heq x))

theorem fills_refl (hs : Owned r s) (hbusy : ∀ x ∈ busy, s.isMergedAt x = true) :
    Fills r busy s s := fills_of_isMergedAt_eq hs hs hbusy (fun _ => rfl) fun _ _ => rfl

theorem Fills.trans (hst : Fills r busy s t) (htu : Fills r busy t u) : Fills r busy s u where
  before := hst.before
  owned := htu.owned
  stays x hx := htu.stays x (hst.stays x hx)
  kept x hx hmerged := (htu.kept x hx (hst.stays x hmerged)).trans (hst.kept x hx hmerged)
  begun x hx := by
    refine ⟨(hst.begun x hx).1, fun y hy => ?_⟩
    obtain ⟨-, hy⟩ | hy := fresh_cases hy
    · exact (hst.begun x hx).2 y hy
    · exact (htu.begun x hx).2 y hy
  served x y hx hneeds := by
    obtain ⟨hmerged, hx⟩ | hx := fresh_cases hx
    · exact (hst.served x y hx hneeds).later htu hmerged (hst.idle hx.1)
        fun hy => (hst.begun y hy).2 x hx
    · exact htu.served x y hx hneeds
  headed x hx hgroup := by
    obtain ⟨-, hx⟩ | hx := fresh_cases (t := t) hx
    · obtain ⟨first, hfirst, hall⟩ := hst.headed x hx hgroup
      -- The whole group is merged by now, and not busy.
      have hkept {q : String} (hq : r.Mutual x q) : u.mergedOf q = t.mergedOf q := by
        have hfresh : Fresh s t q := fresh_of_mutual hst.owned.same hst.served hx hgroup hq
        exact htu.kept q (hst.idle hfresh.1) hfresh.2
      refine ⟨first, hfirst, fun q hq => ?_⟩
      rw [hkept hq, hkept hfirst]
      exact hall q hq
    · refine htu.headed x hx fun q hq => ?_
      by_contra hmerged
      have hqfresh : Fresh s t q := ⟨hgroup q hq, by simpa using hmerged⟩
      have hqgroup (z : String) (hz : r.Mutual q z) : s.isMergedAt z = false :=
        hgroup z (hq.trans hz)
      have hxmerged := (fresh_of_mutual hst.owned.same hst.served hqfresh hqgroup hq.symm).2
      simp [hx.1] at hxmerged

/-- While a package is busy, another merge for one that it needs. -/
theorem Fills.while_busy (h : Fills r ∅ s t) (hkey : s.isMergedAt key = true)
    (hneeded : ∀ y, Fresh s t y → r.Needed key y) : Fills r {key} s t where
  before := h.before
  owned := h.owned
  stays := h.stays
  kept x _ := h.kept x (Set.notMem_empty x)
  begun x hx := by
    obtain rfl := Set.mem_singleton_iff.1 hx
    exact ⟨hkey, hneeded⟩
  served := h.served
  headed := h.headed

theorem Owned.appendPaths (hs : Owned r s) (hkey : s.isMergedAt key = true) :
    Owned r (s.appendPaths key target) := by
  refine ⟨hs.same.trans sameGraph_appendPaths, fun x hx => ?_⟩
  rw [isMergedAt_appendPaths] at hx
  by_cases hne : x = key
  · subst hne
    rw [mergedOf_appendPaths_self (isSome_find?_of_isMergedAt hkey)]
    exact SearchPaths.subset_trans (hs.own x hx) (SearchPaths.subset_append_left _ _)
  · rw [mergedOf_appendPaths_of_ne hne]
    exact hs.own x hx

theorem fills_appendPaths (hs : Owned r s) (hkey : s.isMergedAt key = true) :
    Fills r {key} s (s.appendPaths key target) := by
  refine fills_of_isMergedAt_eq hs (hs.appendPaths hkey) (fun x hx => ?_)
    (fun _ => isMergedAt_appendPaths) fun x hx => mergedOf_appendPaths_of_ne hx
  rwa [Set.mem_singleton_iff.1 hx]

/-- A package has been merged, and what has been merged for it has gone into it. -/
structure Collects (r : Registry) (key : String) (s t : Registry) : Prop where
  fills : Fills r ∅ s t
  merged : (r.find? key).isSome → t.isMergedAt key = true
  needed : ∀ x, Fresh s t x → r.Needed key x
  gathered : ∀ x, Fresh s t x → t.mergedOf x ⊆ t.mergedOf key

/-- Some targets of a package have been merged and appended to it in turn. -/
structure Gathers (r : Registry) (key : String) (targets : List String) (s t : Registry) :
    Prop where
  fills : Fills r {key} s t
  grows : s.mergedOf key ⊆ t.mergedOf key
  gathered : ∀ x, Fresh s t x → t.mergedOf x ⊆ t.mergedOf key
  served : ∀ target ∈ targets, Served r t key target

theorem gathers_nil (hs : Owned r s) (hkey : s.isMergedAt key = true) : Gathers r key [] s s where
  fills := by
    refine fills_refl hs fun x hx => ?_
    obtain rfl := Set.mem_singleton_iff.1 hx
    exact hkey
  grows := SearchPaths.subset_refl _
  gathered _ hx := absurd hx (not_fresh_of_eq rfl)
  served _ h := nomatch h

/-- One target more in front. -/
theorem Gathers.cons (hkey : s.isMergedAt key = true) (hneeds : r.Needs key target)
    (hmerge : Collects r target s t) (h : Gathers r key targets (t.appendPaths key target) u) :
    Gathers r key (target :: targets) s u := by
  have hkeyt : t.isMergedAt key = true := hmerge.fills.stays key hkey
  have hfirst : Fills r {key} s t :=
    hmerge.fills.while_busy hkey fun y hy => .head hneeds (hmerge.needed y hy)
  have happend : Fills r {key} t (t.appendPaths key target) :=
    fills_appendPaths hmerge.fills.owned hkeyt
  have hown : (t.appendPaths key target).mergedOf key = t.mergedOf key ++ t.mergedOf target :=
    mergedOf_appendPaths_self (isSome_find?_of_isMergedAt hkeyt)
  have hold : t.mergedOf key ⊆ u.mergedOf key :=
    SearchPaths.subset_trans (hown ▸ SearchPaths.subset_append_left _ _) h.grows
  have hnew : t.mergedOf target ⊆ u.mergedOf key :=
    SearchPaths.subset_trans (hown ▸ SearchPaths.subset_append_right _ _) h.grows
  have hlater : Fills r {key} t u := happend.trans h.fills
  refine ⟨hfirst.trans hlater, ?_, fun x hx => ?_, List.forall_mem_cons.2 ⟨⟨?_, ?_, ?_⟩, h.served⟩⟩
  · rwa [← hmerge.fills.kept key (Set.notMem_empty key) hkey]
  · obtain ⟨hmerged, hx⟩ | hx := fresh_cases (t := t) hx
    · rw [hlater.kept x (hfirst.idle hx.1) hmerged]
      exact SearchPaths.subset_trans (hmerge.gathered x hx) hnew
    · refine h.gathered x ⟨?_, hx.2⟩
      rw [isMergedAt_appendPaths]
      exact hx.1
  · exact fun hsome => hlater.stays target (hmerge.merged hsome)
  · by_cases hsome : (r.find? target).isSome
    · exact SearchPaths.subset_trans (hmerge.fills.owned.own target (hmerge.merged hsome)) hnew
    · rw [pathsOf_of_find?_eq_none (Option.not_isSome_iff_eq_none.1 hsome)]
      exact SearchPaths.empty_subset _
  · intro hback
    have hidle : target ∉ ({key} : Set String) := by
      intro hbusy
      exact hback (Set.mem_singleton_iff.1 hbusy ▸ .refl)
    rw [hlater.kept_of_registered hidle hmerge.merged]
    exact hnew

theorem gathers_mergeTargets (hs : Owned r s) (hkey : s.isMergedAt key = true)
    (hneeds : ∀ target ∈ targets, r.Needs key target)
    (ih : ∀ target t, t.unmerged ≤ s.unmerged → Owned r t →
      Collects r target t (t.mergePaths target)) :
    Gathers r key targets s (s.mergeTargets key targets) := by
  induction targets generalizing s with
  | nil => exact gathers_nil hs hkey
  | cons target targets ihTargets =>
    obtain ⟨hhead, htail⟩ := List.forall_mem_cons.1 hneeds
    have hmerge := ih target s (Nat.le_refl _) hs
    have hmerged : (s.mergePaths target).isMergedAt key = true := hmerge.fills.stays key hkey
    have happend : Fills r {key} (s.mergePaths target)
        ((s.mergePaths target).appendPaths key target) :=
      fills_appendPaths hmerge.fills.owned hmerged
    rw [mergeTargets_cons]
    refine .cons hkey hhead hmerge (ihTargets happend.owned (happend.stays key hmerged) htail ?_)
    intro other t hle
    rw [unmerged_appendPaths] at hle
    exact ih other t (hle.trans (unmerged_mergeAll_le _))

theorem Owned.beginMerge (hs : Owned r s) (hp : s.find? key = some p) :
    Owned r (s.beginMerge key) := by
  refine ⟨hs.same.trans sameGraph_beginMerge, fun x hx => ?_⟩
  by_cases hne : x = key
  · subst hne
    rw [mergedOf_beginMerge_self hp, ← hs.same.pathsOf, pathsOf_of_find? hp]
    exact SearchPaths.subset_refl _
  · rw [isMergedAt_congr (mergeState_beginMerge_of_ne hne)] at hx
    rw [mergedOf_beginMerge_of_ne hne]
    exact hs.own x hx

/-- Once all its targets have been gathered, the merge of a package is over. -/
theorem Gathers.collects (hs : Owned r s) (hp : s.find? key = some p) (hnew : p.isMerged = false)
    (h : Gathers r key (r.targetsOf key) (s.beginMerge key) t) : Collects r key s t := by
  have hkey : s.isMergedAt key = false := by rw [isMergedAt_of_find? hp, hnew]
  have hbegin (x : String) : (s.beginMerge key).isMergedAt x = (x == key || s.isMergedAt x) :=
    isMergedAt_beginMerge (by simp [hp])
  have hmerged : t.isMergedAt key = true := h.fills.stays key (by simp [hbegin])
  -- What is fresh now is the package itself or was merged for one of its targets.
  have hfresh {x : String} (hx : Fresh s t x) : x = key ∨ Fresh (s.beginMerge key) t x := by
    by_cases hne : x = key
    · exact .inl hne
    · exact .inr ⟨by simp [hbegin, hne, hx.1], hx.2⟩
  have hgathered (x : String) (hx : Fresh s t x) : t.mergedOf x ⊆ t.mergedOf key := by
    obtain rfl | hx := hfresh hx
    · exact SearchPaths.subset_refl _
    · exact h.gathered x hx
  have hserved (x y : String) (hx : Fresh s t x) (hneeds : r.Needs x y) : Served r t x y := by
    obtain rfl | hx := hfresh hx
    · exact h.served y hneeds
    · exact h.fills.served x y hx hneeds
  refine ⟨⟨hs.same, h.fills.owned, fun x hx => ?_, fun x _ hx => ?_,
    fun x hx => absurd hx (Set.notMem_empty x), hserved, fun x hx hgroup => ?_⟩,
    fun _ => hmerged, fun x hx => ?_, hgathered⟩
  · exact h.fills.stays x (by simp [hbegin, hx])
  · have hne : x ≠ key := by
      rintro rfl
      simp [hx] at hkey
    rw [h.fills.kept x hne (by simp [hbegin, hx]), mergedOf_beginMerge_of_ne hne]
  · by_cases hback : r.Mutual x key
    · refine ⟨key, hback, fun q hq => hgathered q ?_⟩
      exact fresh_of_mutual h.fills.owned.same hserved hx hgroup hq
    · have hne {q : String} (hq : r.Mutual x q) : q ≠ key := by
        rintro rfl
        exact hback hq
      have hx' := (hfresh hx).resolve_left (hne ⟨.refl, .refl⟩)
      exact h.fills.headed x hx' fun q hq => by simp [hbegin, hne hq, hgroup q hq]
  · obtain rfl | hx := hfresh hx
    · exact .refl
    · exact (h.fills.begun key rfl).2 x hx

/-- Merging a package, whatever has been merged before and whatever is still being merged. -/
theorem collects_mergePaths (hs : Owned r s) : Collects r key s (s.mergePaths key) := by
  induction hn : s.unmerged using Nat.strong_induction_on generalizing key s with
  | _ n ih =>
    subst hn
    by_cases hdone : (s.find? key).isSome → s.isMergedAt key = true
    · rw [mergePaths_of_done hdone]
      refine ⟨fills_refl hs fun x hx => absurd hx (Set.notMem_empty x), fun hsome => ?_,
        fun x hx => absurd hx (not_fresh_of_eq rfl), fun x hx => absurd hx (not_fresh_of_eq rfl)⟩
      exact hdone (by rwa [hs.same.isSome_find?])
    · obtain ⟨hsome, hnew⟩ := Classical.not_imp.1 hdone
      obtain ⟨p, hp⟩ := Option.isSome_iff_exists.1 hsome
      rw [isMergedAt_of_find? hp, Bool.not_eq_true] at hnew
      have htargets : p.targets = r.targetsOf key := by
        rw [← hs.same.targetsOf, targetsOf_of_find? hp]
      have hkey : (s.beginMerge key).isMergedAt key = true := by
        rw [isMergedAt_beginMerge hsome, beq_self_eq_true, Bool.true_or]
      rw [mergePaths_of_find? hp hnew, htargets]
      refine (gathers_mergeTargets (hs.beginMerge hp) hkey (fun _ h => h) ?_).collects hs hp hnew
      intro target t hle ht
      exact ih t.unmerged (hle.trans_lt (unmerged_beginMerge hp hnew)) ht rfl

/-! ### Any order of merges -/

theorem Unmerged.isMergedAt (hr : r.Unmerged) (x : String) : r.isMergedAt x = false := by
  cases hp : r.find? x with
  | none => simp [Registry.isMergedAt, hp]
  | some p => rw [isMergedAt_of_find? hp, hr p (find?_mem hp)]

theorem owned_of_unmerged (hr : r.Unmerged) : Owned r r := by
  refine ⟨rfl, fun x hx => ?_⟩
  simp [hr.isMergedAt] at hx

theorem Owned.congr (hs : Owned r s) (hsame : SameGraph s t)
    (heq : ∀ x, t.mergeState x = s.mergeState x) : Owned r t := by
  refine ⟨hs.same.trans hsame, fun x hx => ?_⟩
  rw [isMergedAt_congr (heq x)] at hx
  rw [mergedOf_congr (heq x)]
  exact hs.own x hx

/-- What the merges since a certain state have made complete stays so. -/
theorem lasting_fills : Lasting r (Fills r ∅ r) where
  same _ h := h.owned.same
  mergePaths _ key h := h.trans (collects_mergePaths h.owned).fills
  congr _ _ hsame heq h := by
    refine h.trans (fills_of_isMergedAt_eq h.owned (h.owned.congr hsame heq) (fun x hx => ?_)
      (fun x => isMergedAt_congr (heq x)) fun x _ => mergedOf_congr (heq x))
    exact absurd hx (Set.notMem_empty x)

section Filled

variable (h : Fills r ∅ r t) (hr : r.Unmerged)
include h hr

/-- Whatever a merged package needs is merged. -/
theorem Fills.isMergedAt_of_needed (hx : t.isMergedAt x = true) (hneeded : r.Needed x y)
    (hy : (r.find? y).isSome) : t.isMergedAt y = true := by
  induction hneeded with
  | refl => exact hx
  | @tail b c _ hneeds ih =>
    have hb := ih (isSome_find?_of_needs hneeds)
    exact (h.served b c ⟨hr.isMergedAt b, hb⟩ hneeds).merged hy

/-- A merged package has all paths of those that it leads to. -/
theorem Fills.mergedOf_subset (hx : t.isMergedAt x = true)
    (hway : Relation.ReflTransGen r.Leads x y) : t.mergedOf y ⊆ t.mergedOf x := by
  induction hway with
  | refl => exact SearchPaths.subset_refl _
  | @tail b c hway hleads ih =>
    have hneeded : r.Needed x b := Relation.ReflTransGen.mono (fun _ _ hxy => hxy.1) _ _ hway
    have hb := h.isMergedAt_of_needed hr hx hneeded (isSome_find?_of_needs hleads.1)
    exact SearchPaths.subset_trans
      ((h.served b c ⟨hr.isMergedAt b, hb⟩ hleads.1).linked hleads.2) ih

/-- A merged package has the declared paths of those that it leads to and of those that they need
directly. -/
theorem Fills.pathsOf_subset {z : String} (hx : t.isMergedAt x = true)
    (hway : Relation.ReflTransGen r.Leads x y) (hy : (r.find? y).isSome)
    (hz : z = y ∨ r.Needs y z) : r.pathsOf z ⊆ t.mergedOf x := by
  have hneeded : r.Needed x y := Relation.ReflTransGen.mono (fun _ _ hxy => hxy.1) _ _ hway
  have hmerged := h.isMergedAt_of_needed hr hx hneeded hy
  refine SearchPaths.subset_trans ?_ (h.mergedOf_subset hr hx hway)
  obtain rfl | hneeds := hz
  · exact h.owned.own z hmerged
  · exact (h.served y z ⟨hr.isMergedAt y, hmerged⟩ hneeds).declared

theorem Fills.exists_first (hx : t.isMergedAt x = true) :
    ∃ first, r.Mutual x first ∧ ∀ q, r.Mutual x q → t.mergedOf q ⊆ t.mergedOf first :=
  h.headed x ⟨hr.isMergedAt x, hx⟩ fun q _ => hr.isMergedAt q

end Filled

end Registry

end PascalWorkspace
