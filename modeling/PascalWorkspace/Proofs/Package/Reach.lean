import PascalWorkspace.Proofs.Package.Merge

/-! What merging and publishing mark, in any graph: from the packages they begin with, all that can
be reached through needs without passing through a package that is marked already. -/
namespace PascalWorkspace

section Avoiding

variable {α : Type} {next : α → α → Prop} {marked marked' : α → Prop} {a b c key : α}

/-- A way from one place to another that meets nothing marked, at its ends neither. -/
def Avoiding (next : α → α → Prop) (marked : α → Prop) (a b : α) : Prop :=
  ¬ marked a ∧ Relation.ReflTransGen (fun x y => next x y ∧ ¬ marked y) a b

theorem Avoiding.refl (ha : ¬ marked a) : Avoiding next marked a a := ⟨ha, .refl⟩

theorem Avoiding.tail (h : Avoiding next marked a b) (hnext : next b c) (hc : ¬ marked c) :
    Avoiding next marked a c := ⟨h.1, h.2.tail ⟨hnext, hc⟩⟩

theorem Avoiding.head (ha : ¬ marked a) (hnext : next a b) (h : Avoiding next marked b c) :
    Avoiding next marked a c := ⟨ha, .head ⟨hnext, h.1⟩ h.2⟩

theorem Avoiding.mono (h : Avoiding next marked' a b) (himp : ∀ x, marked x → marked' x) :
    Avoiding next marked a b := by
  refine ⟨fun ha => h.1 (himp a ha), ?_⟩
  exact Relation.ReflTransGen.mono (fun x y hxy => ⟨hxy.1, fun hy => hxy.2 (himp y hy)⟩) _ _ h.2

/-- To visit the first of several places, go on from those next to it, with the place marked. -/
theorem avoiding_visit {targets rest : List α} (hkey : ¬ marked key)
    (htargets : ∀ x, x ∈ targets ↔ next key x) :
    (∃ a ∈ key :: rest, Avoiding next marked a b) ↔
      b = key ∨ ∃ a ∈ targets ++ rest, Avoiding next (fun x => x = key ∨ marked x) a b := by
  constructor
  · rintro ⟨a, ha, hnot, hway⟩
    induction hway with
    | refl =>
      by_cases heq : a = key
      · exact .inl heq
      · have hrest : a ∈ rest := (List.mem_cons.1 ha).resolve_left heq
        exact .inr ⟨a, List.mem_append_right _ hrest, .refl (not_or.2 ⟨heq, hnot⟩)⟩
    | @tail x y _ hxy ih =>
      by_cases heq : y = key
      · exact .inl heq
      · have hy : ¬ (y = key ∨ marked y) := not_or.2 ⟨heq, hxy.2⟩
        obtain rfl | ⟨s, hs, hway⟩ := ih
        · -- The way leaves the first place here for the last time.
          exact .inr ⟨y, List.mem_append_left _ ((htargets y).2 hxy.1), .refl hy⟩
        · exact .inr ⟨s, hs, hway.tail hxy.1 hy⟩
  · rintro (rfl | ⟨a, ha, hway⟩)
    · exact ⟨b, List.mem_cons_self, .refl hkey⟩
    · have hold : Avoiding next marked a b := hway.mono fun x hx => .inr hx
      obtain htarget | hrest := List.mem_append.1 ha
      · exact ⟨key, List.mem_cons_self, .head hkey ((htargets a).1 htarget) hold⟩
      · exact ⟨a, List.mem_cons_of_mem _ hrest, hold⟩

end Avoiding

namespace Registry

variable {r s t : Registry} {key other target : String} {p : Package} {rest keys : List String}
  {marked marked' : String → Prop}

def isPublishedAt (r : Registry) (key : String) : Bool :=
  ((r.find? key).map (·.isPublished)).getD false

theorem isPublishedAt_of_find? (h : r.find? key = some p) :
    r.isPublishedAt key = p.isPublished := by
  simp [isPublishedAt, h]

theorem isMergedAt_of_find? (h : r.find? key = some p) : r.isMergedAt key = p.isMerged := by
  simp [isMergedAt, h]

theorem isSome_find?_of_isMergedAt (h : r.isMergedAt key = true) : (r.find? key).isSome := by
  by_contra hnone
  simp [isMergedAt, Option.not_isSome_iff_eq_none.1 hnone] at h

theorem isPublishedAt_markPublished (h : (r.find? key).isSome) :
    (r.markPublished key).isPublishedAt other = (other == key || r.isPublishedAt other) := by
  obtain ⟨p, hp⟩ := Option.isSome_iff_exists.1 h
  have hfind : (r.markPublished key).find? other = (r.find? other).map fun p =>
      if other = key then { p with isPublished := true } else p := find?_update fun _ => rfl
  rw [isPublishedAt, hfind]
  by_cases hk : other = key
  · simp [hk, hp]
  · simp [isPublishedAt, hk]

/-- All that can be reached from some packages without passing through marked ones. -/
def Reaches (r : Registry) (marked : String → Prop) (keys : List String) (key : String) : Prop :=
  ∃ start ∈ keys, Avoiding r.Needs marked start key

theorem not_reaches_nil : ¬ r.Reaches marked [] other := by simp [Reaches]

theorem Reaches.cons (h : r.Reaches marked rest other) : r.Reaches marked (key :: rest) other := by
  obtain ⟨start, hstart, hway⟩ := h
  exact ⟨start, List.mem_cons_of_mem _ hstart, hway⟩

/-- Nothing is reached from a marked package. -/
theorem reaches_of_marked (hkey : marked key) :
    r.Reaches marked (key :: rest) other ↔ r.Reaches marked rest other := by
  refine ⟨?_, .cons⟩
  rintro ⟨start, hstart, hway⟩
  obtain rfl | hrest := List.mem_cons.1 hstart
  · exact absurd hkey hway.1
  · exact ⟨start, hrest, hway⟩

/-- Nothing that is registered is reached from a package that is not. -/
theorem reaches_of_find?_eq_none (hkey : r.find? key = none) (hother : (r.find? other).isSome) :
    r.Reaches marked (key :: rest) other ↔ r.Reaches marked rest other := by
  refine ⟨?_, .cons⟩
  rintro ⟨start, hstart, hway⟩
  obtain rfl | hrest := List.mem_cons.1 hstart
  · obtain rfl | ⟨x, hneeds, -⟩ := hway.2.cases_head
    · simp [hkey] at hother
    · simpa [hkey] using isSome_find?_of_needs hneeds.1
  · exact ⟨start, hrest, hway⟩

/-- A package that is visited is marked, and its targets are visited instead. -/
theorem reaches_visit (hp : r.find? key = some p) (hkey : ¬ marked key)
    (hmarked : ∀ x, marked' x ↔ x = key ∨ marked x) :
    (marked' other ∨ r.Reaches marked' (p.targets ++ rest) other) ↔
      (marked other ∨ r.Reaches marked (key :: rest) other) := by
  have htargets (x : String) : x ∈ p.targets ↔ r.Needs key x := by
    rw [Needs, targetsOf_of_find? hp]
  have hvisit : (∃ start ∈ key :: rest, Avoiding r.Needs marked start other) ↔ _ :=
    avoiding_visit hkey htargets
  obtain rfl : marked' = fun x => x = key ∨ marked x := funext fun x => propext (hmarked x)
  unfold Reaches
  rw [hvisit]
  tauto

theorem SameGraph.reaches_iff (h : SameGraph r s) :
    s.Reaches marked keys other ↔ r.Reaches marked keys other := by
  rw [Reaches, h.needs_eq, Reaches]

/-! ### Publishing -/

theorem isPublishedAt_publishAll (tree : DefineTree) (pending : List String)
    (hother : (r.find? other).isSome) :
    (r.publishAll tree pending).1.isPublishedAt other = true ↔
      r.isPublishedAt other = true ∨ r.Reaches (r.isPublishedAt · = true) pending other := by
  fun_induction publishAll r tree pending with
  | case1 r tree => simp [not_reaches_nil]
  | case2 r tree key rest hfind ih => rw [ih hother, reaches_of_find?_eq_none hfind hother]
  | case3 r tree key rest p hfind hp ih =>
    rw [ih hother, reaches_of_marked (by rwa [isPublishedAt_of_find? hfind])]
  | case4 r tree key rest p hfind hp ih =>
    have hsame : SameGraph r (r.markPublished key) := sameGraph_markPublished
    have hkey : ¬ r.isPublishedAt key = true := by rwa [isPublishedAt_of_find? hfind]
    have hmarked (x : String) : (r.markPublished key).isPublishedAt x = true ↔
        x = key ∨ r.isPublishedAt x = true := by
      rw [isPublishedAt_markPublished (by simp [hfind]), Bool.or_eq_true, beq_iff_eq]
    rw [ih (by rwa [hsame.isSome_find?]), hsame.reaches_iff]
    exact reaches_visit hfind hkey hmarked

/-! ### Merging -/

/-- The package that a task merges. -/
def MergeTask.key? : MergeTask → Option String
  | .merge key => some key
  | .append _ _ => none

theorem filterMap_mergeTasks (p : Package) (tasks : List MergeTask) :
    (mergeTasks p ++ tasks).filterMap MergeTask.key? =
      p.targets ++ tasks.filterMap MergeTask.key? := by
  rw [List.filterMap_append, mergeTasks]
  congr 1
  induction p.targets with
  | nil => rfl
  | cons target targets ih =>
    rw [List.flatMap_cons, List.filterMap_append, ih]
    rfl

theorem isMergedAt_mergeAll_iff (tasks : List MergeTask) (hother : (s.find? other).isSome) :
    (s.mergeAll tasks).isMergedAt other = true ↔
      s.isMergedAt other = true ∨
        s.Reaches (s.isMergedAt · = true) (tasks.filterMap MergeTask.key?) other := by
  fun_induction mergeAll s tasks with
  | case1 s => simp [not_reaches_nil]
  | case2 s key target rest ih =>
    have hsame : SameGraph s (s.appendPaths key target) := sameGraph_appendPaths
    rw [ih (by rwa [hsame.isSome_find?]), hsame.reaches_iff]
    simp only [isMergedAt_appendPaths]
    rfl
  | case3 s key rest hfind ih =>
    rw [ih hother]
    exact or_congr_right (reaches_of_find?_eq_none hfind hother).symm
  | case4 s key rest p hfind hp ih =>
    rw [ih hother]
    have hkey : s.isMergedAt key = true := by rwa [isMergedAt_of_find? hfind]
    exact or_congr_right (reaches_of_marked hkey).symm
  | case5 s key rest p hfind hp ih =>
    have hsame : SameGraph s (s.beginMerge key) := sameGraph_beginMerge
    have hkey : ¬ s.isMergedAt key = true := by rwa [isMergedAt_of_find? hfind]
    have hmarked (x : String) : (s.beginMerge key).isMergedAt x = true ↔
        x = key ∨ s.isMergedAt x = true := by
      rw [isMergedAt_beginMerge (by simp [hfind]), Bool.or_eq_true, beq_iff_eq]
    rw [ih (by rwa [hsame.isSome_find?]), hsame.reaches_iff, filterMap_mergeTasks]
    exact reaches_visit hfind hkey hmarked

theorem isMergedAt_foldl_iff (hother : (s.find? other).isSome) :
    (keys.foldl mergePaths s).isMergedAt other = true ↔
      s.isMergedAt other = true ∨ s.Reaches (s.isMergedAt · = true) keys other := by
  have hfold : keys.foldl mergePaths s = s.mergeAll (keys.map .merge) := by
    induction keys generalizing s with
    | nil => rw [List.map_nil, mergeAll, List.foldl_nil]
    | cons key keys ih =>
      have hsome : ((s.mergePaths key).find? other).isSome := by
        rwa [sameGraph_mergePaths.isSome_find?]
      rw [List.foldl_cons, ih hsome, mergePaths, ← mergeAll_append, List.singleton_append,
        List.map_cons]
  have hkeys : (keys.map MergeTask.merge).filterMap MergeTask.key? = keys := by
    rw [List.filterMap_map]
    exact List.filterMap_some
  rw [hfold, isMergedAt_mergeAll_iff _ hother, hkeys]

end Registry

end PascalWorkspace
