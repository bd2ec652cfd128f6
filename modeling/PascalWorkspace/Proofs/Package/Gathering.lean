import PascalWorkspace.Proofs.Package.Cycle
import PascalWorkspace.Proofs.Package.DepthFirst
import PascalWorkspace.Proofs.Package.Publication
import PascalWorkspace.Walk.Phases

/-! Merging a package in any graph, when nothing that it needs has been merged. A package met on the
way passes everything it has gathered on to the one that it is merged for. So the first one ends
with the paths of all that it needs, whatever the others have missed. -/
namespace PascalWorkspace

/-- A package without the results of merging. -/
def Package.plain (p : Package) : Package := { p with mergedPaths := {}, isMerged := false }

namespace SearchPaths

variable {a b c : SearchPaths} {list : SearchPaths → List String}

/-- The three lists. -/
def lists : List (SearchPaths → List String) := [(·.units), (·.includes), (·.sources)]

/-- Each of the three lists begins with the other's. -/
def Begins (a b : SearchPaths) : Prop := ∀ list ∈ lists, list a <+: list b

theorem list_append (h : list ∈ lists) : list (a ++ b) = list a ++ list b := by
  simp only [lists, List.mem_cons, List.not_mem_nil, or_false] at h
  obtain rfl | rfl | rfl := h <;> rfl

theorem list_empty (h : list ∈ lists) : list {} = [] := by
  simp only [lists, List.mem_cons, List.not_mem_nil, or_false] at h
  obtain rfl | rfl | rfl := h <;> rfl

theorem subset_iff : a ⊆ b ↔ ∀ list ∈ lists, list a ⊆ list b := by
  simp only [lists, List.forall_mem_cons]
  exact ⟨fun h => ⟨h.1, h.2.1, h.2.2, by simp⟩, fun h => ⟨h.1, h.2.1, h.2.2.1⟩⟩

theorem Begins.refl (a : SearchPaths) : a.Begins a := fun _ _ => List.prefix_rfl

theorem Begins.append (h : a.Begins b) : a.Begins (b ++ c) := by
  intro list hlist
  rw [list_append hlist]
  exact (h list hlist).trans (List.prefix_append _ _)

theorem Begins.subset (h : a.Begins b) : a ⊆ b :=
  subset_iff.2 fun list hlist => (h list hlist).subset

end SearchPaths

namespace Registry

variable {r s t u : Registry} {root key target other x : String} {p : Package}
  {targets order : List String} {a b : SearchPaths}

/-- Paths that all are declared by packages that one needs. -/
def Declares (r : Registry) (key : String) (a : SearchPaths) : Prop :=
  ∀ list ∈ SearchPaths.lists, ∀ path ∈ list a, ∃ x, r.Needed key x ∧ path ∈ list (r.pathsOf x)

theorem Declares.append (ha : r.Declares key a) (hb : r.Declares key b) :
    r.Declares key (a ++ b) := by
  intro list hlist path hpath
  rw [SearchPaths.list_append hlist, List.mem_append] at hpath
  exact hpath.elim (ha list hlist path) (hb list hlist path)

theorem Declares.of_needed (h : r.Declares target a) (hneeded : r.Needed key target) :
    r.Declares key a := by
  intro list hlist path hpath
  obtain ⟨x, hx, hdeclared⟩ := h list hlist path hpath
  exact ⟨x, hneeded.trans hx, hdeclared⟩

theorem declares_pathsOf : r.Declares key (r.pathsOf key) :=
  fun _ _ _ hpath => ⟨key, .refl, hpath⟩

theorem declares_empty : r.Declares key {} := by
  intro list hlist path hpath
  simp [SearchPaths.list_empty hlist] at hpath

/-- There is no package of this manifest, or it has been merged. -/
def NothingToMerge (s : Registry) (key : String) : Prop :=
  (s.find? key).isSome → s.isMergedAt key = true

theorem nothingToMerge_of_find?_eq_none (h : s.find? key = none) : s.NothingToMerge key :=
  fun hsome => by simp [h] at hsome

theorem exists_of_not_nothingToMerge (h : ¬ s.NothingToMerge key) :
    ∃ p, s.find? key = some p ∧ p.isMerged = false := by
  obtain ⟨hsome, hnew⟩ := Classical.not_imp.1 h
  obtain ⟨p, hp⟩ := Option.isSome_iff_exists.1 hsome
  rw [isMergedAt_of_find? hp, Bool.not_eq_true] at hnew
  exact ⟨p, hp, hnew⟩

theorem nothingToMerge_beginMerge (hp : (s.find? key).isSome) :
    (s.beginMerge key).NothingToMerge x ↔ x = key ∨ s.NothingToMerge x := by
  rw [NothingToMerge, isMergedAt_beginMerge hp, sameGraph_beginMerge.isSome_find?, NothingToMerge]
  by_cases hx : x = key <;> simp [hx]

theorem nothingToMerge_appendPaths :
    (s.appendPaths key target).NothingToMerge x ↔ s.NothingToMerge x := by
  rw [NothingToMerge, isMergedAt_appendPaths, sameGraph_appendPaths.isSome_find?, NothingToMerge]

/-! ### What holds of every package on the way -/

/-- Of the packages that one needs, those that are merged have their own paths first and none but
those of packages that they need. All others are as they were. -/
structure Proper (r : Registry) (root : String) (s : Registry) : Prop where
  same : SameGraph r s
  paths : ∀ x, r.Needed root x → s.isMergedAt x = true →
    (r.pathsOf x).Begins (s.mergedOf x) ∧ r.Declares x (s.mergedOf x)
  others : ∀ x, ¬ r.Needed root x → s.find? x = r.find? x

theorem Proper.beginMerge (h : Proper r root s) (hkey : r.Needed root key)
    (hp : s.find? key = some p) : Proper r root (s.beginMerge key) := by
  have hown : (s.beginMerge key).mergedOf key = r.pathsOf key := by
    rw [mergedOf_beginMerge_self hp, ← h.same.pathsOf, pathsOf_of_find? hp]
  have hkept (x : String) (hne : x ≠ key) :
      (s.beginMerge key).mergeState x = s.mergeState x := mergeState_beginMerge_of_ne hne
  refine ⟨h.same.trans sameGraph_beginMerge, fun x hx hmerged => ?_, fun x hx => ?_⟩
  · by_cases hne : x = key
    · rw [hne, hown]
      exact ⟨.refl _, declares_pathsOf⟩
    · rw [isMergedAt_congr (hkept x hne)] at hmerged
      rw [mergedOf_congr (hkept x hne)]
      exact h.paths x hx hmerged
  · have hne : x ≠ key := by
      rintro rfl
      exact hx hkey
    have hfind : (s.beginMerge key).find? x = s.find? x := find?_update_of_ne (fun _ => rfl) hne
    rw [hfind, h.others x hx]

/-- What has been merged into a target is declared by packages that its package needs as well. -/
theorem Proper.declares_target (h : Proper r root s) (hkey : r.Needed root key)
    (hneeds : r.Needs key target) (htarget : s.NothingToMerge target) :
    r.Declares key (s.mergedOf target) := by
  by_cases hsome : (s.find? target).isSome
  · exact (h.paths target (hkey.tail hneeds) (htarget hsome)).2.of_needed (.single hneeds)
  · rw [mergedOf_of_find?_eq_none (Option.not_isSome_iff_eq_none.1 hsome)]
    exact declares_empty

theorem Proper.appendPaths (h : Proper r root s) (hkey : r.Needed root key)
    (hmerged : s.isMergedAt key = true) (hneeds : r.Needs key target)
    (htarget : s.NothingToMerge target) : Proper r root (s.appendPaths key target) := by
  have hown : (s.appendPaths key target).mergedOf key = s.mergedOf key ++ s.mergedOf target :=
    mergedOf_appendPaths_self (isSome_find?_of_isMergedAt hmerged)
  obtain ⟨hbegins, hdeclares⟩ := h.paths key hkey hmerged
  refine ⟨h.same.trans sameGraph_appendPaths, fun x hx hx' => ?_, fun x hx => ?_⟩
  · rw [isMergedAt_appendPaths] at hx'
    by_cases hne : x = key
    · rw [hne, hown]
      exact ⟨hbegins.append, hdeclares.append (h.declares_target hkey hneeds htarget)⟩
    · rw [mergedOf_appendPaths_of_ne hne]
      exact h.paths x hx hx'
  · have hne : x ≠ key := by
      rintro rfl
      exact hx hkey
    rw [find?_appendPaths_of_ne hne, h.others x hx]

/-! ### One target after another -/

/-- Some packages have been visited for one that is being merged, and it has all their paths. -/
structure Passes (r : Registry) (root key : String) (order : List String) (s t : Registry) :
    Prop where
  proper : Proper r root t
  marks : ∀ x, t.NothingToMerge x ↔ x ∈ order ∨ s.NothingToMerge x
  grows : s.mergedOf key ⊆ t.mergedOf key
  gathered : ∀ x ∈ order, r.pathsOf x ⊆ t.mergedOf key

theorem passes_nil (hs : Proper r root s) : Passes r root key [] s s where
  proper := hs
  marks _ := by simp
  grows := SearchPaths.subset_refl _
  gathered _ h := nomatch h

/-- What is appended in front stays, with what is gathered after it. -/
theorem Passes.append (hkey : s.isMergedAt key = true)
    (h : Passes r root key order (s.appendPaths key target) t) :
    Passes r root key order s t ∧ s.mergedOf target ⊆ t.mergedOf key := by
  have hgrows := h.grows
  rw [mergedOf_appendPaths_self (isSome_find?_of_isMergedAt hkey)] at hgrows
  refine ⟨⟨h.proper, fun x => ?_, ?_, h.gathered⟩, ?_⟩
  · rw [h.marks, nothingToMerge_appendPaths]
  · exact SearchPaths.subset_trans (SearchPaths.subset_append_left _ _) hgrows
  · exact SearchPaths.subset_trans (SearchPaths.subset_append_right _ _) hgrows

theorem Passes.marks_visit {below : List String} (htarget : (s.find? target).isSome)
    (h : Passes r root target below (s.beginMerge target) t) (x : String) :
    t.NothingToMerge x ↔ x ∈ target :: below ∨ s.NothingToMerge x := by
  rw [h.marks, nothingToMerge_beginMerge htarget, List.mem_cons]
  tauto

/-- A target that is visited passes on its own paths and all that it has gathered. -/
theorem Passes.visit {below later : List String} (hkey : t.isMergedAt key = true)
    (hkept : t.mergedOf key = s.mergedOf key) (htarget : (s.find? target).isSome)
    (hown : r.pathsOf target ⊆ t.mergedOf target)
    (hbelow : Passes r root target below (s.beginMerge target) t)
    (hlater : Passes r root key later (t.appendPaths key target) u) :
    Passes r root key (target :: below ++ later) s u := by
  obtain ⟨hrest, hpassed⟩ := hlater.append hkey
  refine ⟨hrest.proper, fun x => ?_, hkept ▸ hrest.grows, fun x hx => ?_⟩
  · rw [hrest.marks, hbelow.marks_visit htarget, List.mem_append]
    tauto
  · obtain hfirst | hlate := List.mem_append.1 hx
    · refine SearchPaths.subset_trans ?_ hpassed
      obtain rfl | hx := List.mem_cons.1 hfirst
      · exact hown
      · exact hbelow.gathered x hx
    · exact hrest.gathered x hlate

/-- The induction follows the search: a target that is visited is merged with all its own targets
before the next one is looked at. -/
theorem passes_mergeTargets {marked : String → Prop}
    (h : DepthFirst r.targetsOf marked targets order) (hs : Proper r root s)
    (hmarked : ∀ x, s.NothingToMerge x ↔ marked x) (hkey : r.Needed root key)
    (hmerged : s.isMergedAt key = true) (hneeds : ∀ target ∈ targets, r.Needs key target) :
    Passes r root key order s (s.mergeTargets key targets) := by
  induction h generalizing s key with
  | done => exact passes_nil hs
  | @skip marked target rest order htarget _ ih =>
    obtain ⟨hhead, htail⟩ := List.forall_mem_cons.1 hneeds
    rw [← hmarked] at htarget
    rw [mergeTargets_cons, mergePaths_of_done htarget]
    have happend := ih (hs.appendPaths hkey hmerged hhead htarget)
      (fun x => nothingToMerge_appendPaths.trans (hmarked x)) hkey
      (isMergedAt_appendPaths.trans hmerged) htail
    exact (happend.append hmerged).1
  | @visit marked target rest below later htarget _ _ ihbelow ihlater =>
    obtain ⟨hhead, htail⟩ := List.forall_mem_cons.1 hneeds
    rw [← hmarked] at htarget
    obtain ⟨p, hp, hnew⟩ := exists_of_not_nothingToMerge htarget
    have hbelow : Passes r root target below (s.beginMerge target) (s.mergePaths target) := by
      rw [mergePaths_of_find? hp hnew, ← targetsOf_of_find? hp, hs.same.targetsOf]
      refine ihbelow (hs.beginMerge (hkey.tail hhead) hp) (fun x => ?_) (hkey.tail hhead) ?_
        fun _ h => h
      · rw [nothingToMerge_beginMerge (by simp [hp]), hmarked]
      · rw [isMergedAt_beginMerge (by simp [hp]), beq_self_eq_true, Bool.true_or]
    have hsome : (s.find? target).isSome := by simp [hp]
    have htargett : (s.mergePaths target).isMergedAt target = true := isMergedAt_mergePaths hsome
    have hkept : (s.mergePaths target).find? key = s.find? key := find?_mergePaths hmerged
    have hkeyt : (s.mergePaths target).isMergedAt key = true := by
      rw [isMergedAt, hkept, ← isMergedAt, hmerged]
    have hlater := ihlater (hbelow.proper.appendPaths hkey hkeyt hhead fun _ => htargett)
      (fun x => by rw [nothingToMerge_appendPaths, hbelow.marks_visit hsome, hmarked]) hkey
      (isMergedAt_appendPaths.trans hkeyt) htail
    rw [mergeTargets_cons]
    refine hbelow.visit hkeyt ?_ hsome ?_ hlater
    · rw [mergedOf, hkept, mergedOf]
    · exact (hbelow.proper.paths target (hkey.tail hhead) htargett).1.subset

/-- What is visited from a package, when nothing that it needs has been merged, is what it needs. -/
theorem exists_order_of_unmerged (hkey : (r.find? key).isSome)
    (hnew : ∀ x, r.Needed key x → r.isMergedAt x = false) :
    ∃ below,
      DepthFirst r.targetsOf (fun x => x = key ∨ r.NothingToMerge x) (r.targetsOf key) below ∧
      ∀ x, x ∈ key :: below ↔ (r.find? x).isSome ∧ r.Needed key x := by
  have hmarked (x : String) (hx : r.Needed key x) : r.NothingToMerge x ↔ r.find? x = none := by
    rw [NothingToMerge, hnew x hx]
    simp
  have hunmarked : ¬ r.NothingToMerge key := by
    rw [hmarked key .refl]
    exact Option.isSome_iff_ne_none.1 hkey
  obtain ⟨below, hbelow⟩ := exists_depthFirst
    (fun x hx => .inr (nothingToMerge_of_find?_eq_none hx) :
      ∀ x, r.find? x = none → x = key ∨ r.NothingToMerge x) r.targetsOf (r.targetsOf key)
  refine ⟨below, hbelow, fun x => ?_⟩
  rw [← List.append_nil (key :: below), (DepthFirst.visit hunmarked hbelow .done).mem_iff,
    ← avoiding_iff (fun _ _ => isSome_find?_of_needs) hmarked]
  simp only [List.mem_singleton, exists_eq_left]
  rfl

theorem passes_mergePaths (hp : r.find? key = some p)
    (hnew : ∀ x, r.Needed key x → r.isMergedAt x = false)
    (hbelow : DepthFirst r.targetsOf (fun x => x = key ∨ r.NothingToMerge x) (r.targetsOf key)
      order) :
    Passes r key key order (r.beginMerge key) (r.mergePaths key) := by
  have hkey : p.isMerged = false := by rw [← isMergedAt_of_find? hp, hnew key .refl]
  have hproper : Proper r key r :=
    ⟨rfl, fun x hx hmerged => by simp [hnew x hx] at hmerged, fun _ _ => rfl⟩
  rw [mergePaths_of_find? hp hkey, ← targetsOf_of_find? hp]
  refine passes_mergeTargets hbelow (hproper.beginMerge .refl hp)
    (fun x => nothingToMerge_beginMerge (by simp [hp])) .refl ?_ fun _ h => h
  rw [isMergedAt_beginMerge (by simp [hp]), beq_self_eq_true, Bool.true_or]

end Registry

namespace Workspace

open Operation Registry

/-- When nothing that a package needs has been merged, merging it gathers the declared paths of
everything that it needs and of nothing else, its own first, whatever cycles there are. All that it
needs is merged with it, each with paths that are declared by packages it needs in turn, and nothing
else changes. -/
theorem mergePaths_gathers (w : Workspace) (key : String) (p : Package)
    (hp : w.registry.find? key = some p)
    (hnew : ∀ x, w.registry.Needed key x → w.registry.isMergedAt x = false) :
    ∃ r : Registry, outcome (mergePaths key) w = (.ok (), { w with registry := r }) ∧
      r.requested = w.registry.requested ∧
      r.packages.map Package.plain = w.registry.packages.map Package.plain ∧
      (∀ x, (w.registry.find? x).isSome → (r.isMergedAt x = true ↔
        w.registry.isMergedAt x = true ∨ w.registry.Needed key x)) ∧
      (∀ list ∈ SearchPaths.lists, list p.paths <+: list (r.mergedOf key) ∧
        ∀ path, path ∈ list (r.mergedOf key) ↔
          ∃ x, w.registry.Needed key x ∧ path ∈ list (w.registry.pathsOf x)) ∧
      (∀ x, w.registry.Needed key x → ∀ list ∈ SearchPaths.lists, ∀ path ∈ list (r.mergedOf x),
        ∃ y, w.registry.Needed x y ∧ path ∈ list (w.registry.pathsOf y)) ∧
      ∀ x, ¬ w.registry.Needed key x → r.find? x = w.registry.find? x := by
  have hsome : (w.registry.find? key).isSome := by simp [hp]
  obtain ⟨below, hbelow, hmem⟩ := exists_order_of_unmerged hsome hnew
  have hpasses := passes_mergePaths hp hnew hbelow
  have hproper := hpasses.proper
  have hmarks := hpasses.marks_visit hsome
  have hregistered (x : String) :
      ((w.registry.mergePaths key).find? x).isSome = (w.registry.find? x).isSome :=
    sameGraph_mergePaths.isSome_find?
  have hmerged (x : String) (hx : (w.registry.find? x).isSome) :
      (w.registry.mergePaths key).isMergedAt x = true ↔
        w.registry.isMergedAt x = true ∨ w.registry.Needed key x := by
    have hmark := hmarks x
    rw [NothingToMerge, hregistered, hmem, NothingToMerge] at hmark
    simp only [hx, forall_const, true_and] at hmark
    rw [hmark, or_comm]
  have hown := (hproper.paths key .refl ((hmerged key hsome).2 (.inr .refl))).1
  have hgathers (x : String) (hx : w.registry.Needed key x) :
      w.registry.pathsOf x ⊆ (w.registry.mergePaths key).mergedOf key := by
    by_cases hxsome : (w.registry.find? x).isSome
    · obtain rfl | hvisited := List.mem_cons.1 ((hmem x).2 ⟨hxsome, hx⟩)
      · exact hown.subset
      · exact hpasses.gathered x hvisited
    · rw [pathsOf_of_find?_eq_none (Option.not_isSome_iff_eq_none.1 hxsome)]
      exact SearchPaths.empty_subset _
  have hdeclares (x : String) (hx : w.registry.Needed key x) :
      w.registry.Declares x ((w.registry.mergePaths key).mergedOf x) := by
    by_cases hxsome : (w.registry.find? x).isSome
    · exact (hproper.paths x hx ((hmerged x hxsome).2 (.inr hx))).2
    · rw [← hregistered, Option.not_isSome_iff_eq_none] at hxsome
      rw [mergedOf_of_find?_eq_none hxsome]
      exact declares_empty
  refine ⟨w.registry.mergePaths key, rfl, requested_mergeAll _, map_mergeAll (fun _ _ _ => rfl) _,
    hmerged, fun list hlist => ⟨?_, fun path => ⟨hdeclares key .refl list hlist path, ?_⟩⟩,
    hdeclares, hproper.others⟩
  · rw [← pathsOf_of_find? hp]
    exact hown list hlist
  · rintro ⟨x, hx, hpath⟩
    exact SearchPaths.subset_iff.1 (hgathers x hx) list hlist hpath

/-- Two packages that need each other. The first needs itself as well, before the second. -/
def knot : Workspace where
  registry := { packages := [
    { manifest := "a", name := "a", directory := "", paths := { units := ["first"] },
      dependencies := [⟨⟨"a", "", false⟩, some "a"⟩, ⟨⟨"b", "", false⟩, some "b"⟩] },
    { manifest := "b", name := "b", directory := "", paths := { units := ["second"] },
      dependencies := [⟨⟨"a", "", false⟩, some "a"⟩] }] }

theorem mergePaths_gathers_knot :
    (∃ p, knot.registry.find? "a" = some p) ∧
      (∀ x, knot.registry.Needed "a" x → knot.registry.isMergedAt x = false) ∧
      ∃ r : Registry, outcome (mergePaths "a") knot = (.ok (), { knot with registry := r }) ∧
        ["first"] <+: (r.mergedOf "a").units ∧ "second" ∈ (r.mergedOf "a").units ∧
        r.isMergedAt "b" = true := by
  have hunmerged : knot.registry.Unmerged := by
    unfold Registry.Unmerged
    decide
  have hnew (x : String) (_ : knot.registry.Needed "a" x) : knot.registry.isMergedAt x = false :=
    hunmerged.isMergedAt x
  have hneeds : knot.registry.Needs "a" "b" := by
    unfold Registry.Needs
    decide
  have hlist : (fun a : SearchPaths => a.units) ∈ SearchPaths.lists := List.mem_cons_self
  obtain ⟨r, hrun, -, -, hflags, hlists, -, -⟩ := mergePaths_gathers knot "a" _ rfl hnew
  obtain ⟨hown, hentries⟩ := hlists _ hlist
  refine ⟨⟨_, rfl⟩, hnew, r, hrun, hown, (hentries "second").2 ⟨"b", .single hneeds, ?_⟩,
    (hflags "b" rfl).2 (.inr (.single hneeds))⟩
  decide

end Workspace

end PascalWorkspace
