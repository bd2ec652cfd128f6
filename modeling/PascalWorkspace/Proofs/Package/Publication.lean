import PascalWorkspace.Proofs.Package.Reach
import PascalWorkspace.Proofs.Package.Shown

/-! Publishing adds a node for each package that it marks, and no other. Merging does not touch what
has been merged, so the nodes stay true. -/
namespace PascalWorkspace

namespace Registry

variable {r s t : Registry} {key other target : String} {p : Package} {keys pending : List String}

/-- The node of a package as it is now. -/
def nodeOf? (r : Registry) (key : String) : Option DefineNode := (r.find? key).map Package.node

theorem map_manifest_filterMap (h : ∀ key ∈ keys, (r.find? key).isSome) :
    (keys.filterMap r.find?).map (·.manifest) = keys := by
  induction keys with
  | nil => rfl
  | cons key keys ih =>
    obtain ⟨hkey, hkeys⟩ := List.forall_mem_cons.1 h
    obtain ⟨p, hp⟩ := Option.isSome_iff_exists.1 hkey
    rw [List.filterMap_cons_some hp, List.map_cons, ih hkeys, find?_manifest hp]

/-! ### What the views see of a package -/

/-- A view that shows no more than what merging and publishing see. -/
theorem map_find?_of_shown {β : Type} {view : Package → β} (hview : ∀ p, view p.shown = view p)
    (h : s.shown? key = r.shown? key) : (s.find? key).map view = (r.find? key).map view := by
  have hmap (q : Registry) : (q.find? key).map view = (q.shown? key).map view := by
    rw [shown?, Option.map_map]
    exact congrArg (fun f => (q.find? key).map f) (funext fun p => (hview p).symm)
  rw [hmap, hmap, h]

theorem isPublishedAt_of_shown (h : s.shown? key = r.shown? key) :
    s.isPublishedAt key = r.isPublishedAt key := by
  rw [isPublishedAt, map_find?_of_shown (fun _ => rfl) h, isPublishedAt]

theorem isMergedAt_of_shown (h : s.shown? key = r.shown? key) :
    s.isMergedAt key = r.isMergedAt key := by
  rw [isMergedAt, map_find?_of_shown (fun _ => rfl) h, isMergedAt]

theorem nodeOf?_of_shown (h : s.shown? key = r.shown? key) : s.nodeOf? key = r.nodeOf? key :=
  map_find?_of_shown (fun _ => rfl) h

section OnlyGrows

variable {source : ManifestSource} (h : OnlyGrows source r s)
include h

theorem OnlyGrows.shown?_of_registered (hkey : (r.find? key).isSome) :
    s.shown? key = r.shown? key := by
  obtain hsame | ⟨hnone, -⟩ := h key
  · exact hsame
  · simp [hnone] at hkey

/-- What turns up has not been published. -/
theorem OnlyGrows.isPublishedAt : s.isPublishedAt key = r.isPublishedAt key := by
  obtain hsame | ⟨hnone, m, -, hnew⟩ := h key
  · exact isPublishedAt_of_shown hsame
  · obtain ⟨p, hp, hshown⟩ := Option.map_eq_some_iff.1 hnew
    have hflag : p.isPublished = false := congrArg Package.isPublished hshown
    rw [isPublishedAt_of_find? hp, hflag, Registry.isPublishedAt, hnone]
    rfl

theorem OnlyGrows.isMergedAt : s.isMergedAt key = r.isMergedAt key := by
  obtain hsame | ⟨hnone, m, -, hnew⟩ := h key
  · exact isMergedAt_of_shown hsame
  · obtain ⟨p, hp, hshown⟩ := Option.map_eq_some_iff.1 hnew
    have hflag : p.isMerged = false := congrArg Package.isMerged hshown
    rw [isMergedAt_of_find? hp, hflag, Registry.isMergedAt, hnone]
    rfl

end OnlyGrows

theorem isSome_find?_of_isPublishedAt (h : r.isPublishedAt key = true) : (r.find? key).isSome := by
  by_contra hnone
  simp [isPublishedAt, Option.not_isSome_iff_eq_none.1 hnone] at h

/-! ### Merging -/

theorem find?_appendPaths_of_ne (hne : other ≠ key) :
    (s.appendPaths key target).find? other = s.find? other := by
  unfold appendPaths
  split
  · rfl
  · exact find?_update_of_ne (fun _ => rfl) hne

/-- What has been merged and is not busy with a merge is not touched. -/
theorem find?_mergeAll {tasks : List MergeTask} (hmerged : s.isMergedAt other = true)
    (htasks : ∀ target, .append other target ∉ tasks) :
    (s.mergeAll tasks).find? other = s.find? other := by
  fun_induction mergeAll s tasks with
  | case1 s => rfl
  | case2 s key target rest ih =>
    have hne : other ≠ key := by
      rintro rfl
      exact htasks target List.mem_cons_self
    rw [ih (isMergedAt_appendPaths.trans hmerged)
      fun target h => htasks target (List.mem_cons_of_mem _ h), find?_appendPaths_of_ne hne]
  | case3 s key rest hfind ih => exact ih hmerged fun target h => htasks target (.tail _ h)
  | case4 s key rest p hfind hp ih => exact ih hmerged fun target h => htasks target (.tail _ h)
  | case5 s key rest p hfind hp ih =>
    have hne : other ≠ key := by
      rintro rfl
      exact hp (by rwa [isMergedAt_of_find? hfind] at hmerged)
    have hbegin : (s.beginMerge key).isMergedAt other = true := by
      rw [isMergedAt_beginMerge (by simp [hfind]), hmerged, Bool.or_true]
    refine (ih hbegin fun target h => ?_).trans (find?_update_of_ne (fun _ => rfl) hne)
    obtain hnew | hold := List.mem_append.1 h
    · simp [mergeTasks, find?_manifest hfind, hne] at hnew
    · exact htasks target (.tail _ hold)

theorem find?_mergePaths (hmerged : s.isMergedAt other = true) :
    (s.mergePaths key).find? other = s.find? other :=
  find?_mergeAll hmerged fun target h => by simp at h

theorem find?_foldl_mergePaths (hmerged : s.isMergedAt other = true) :
    (keys.foldl mergePaths s).find? other = s.find? other := by
  induction keys generalizing s with
  | nil => rfl
  | cons key keys ih =>
    have hkept : (s.mergePaths key).isMergedAt other = true := isMergedAt_mergeAll _ hmerged
    rw [List.foldl_cons, ih hkept, find?_mergePaths hmerged]

theorem isPublishedAt_mergeAll (tasks : List MergeTask) :
    (s.mergeAll tasks).isPublishedAt other = s.isPublishedAt other := by
  have hupdate {q : Registry} {key : String} {f : Package → Package}
      (hf : ∀ p, (f p).manifest = p.manifest) (hflag : ∀ p, (f p).isPublished = p.isPublished) :
      (q.update key f).isPublishedAt other = q.isPublishedAt other := by
    rw [isPublishedAt, map_find?_update hf hflag, isPublishedAt]
  fun_induction mergeAll s tasks with
  | case1 s => rfl
  | case2 s key target rest ih =>
    refine ih.trans ?_
    unfold appendPaths
    split
    · rfl
    · exact hupdate (fun _ => rfl) fun _ => rfl
  | case3 s key rest hfind ih => exact ih
  | case4 s key rest p hfind hp ih => exact ih
  | case5 s key rest p hfind hp ih =>
    refine ih.trans (hupdate ?_ ?_) <;> exact fun _ => rfl

theorem isPublishedAt_foldl :
    (keys.foldl mergePaths s).isPublishedAt other = s.isPublishedAt other := by
  induction keys generalizing s with
  | nil => rfl
  | cons key keys ih =>
    rw [List.foldl_cons, ih, mergePaths, isPublishedAt_mergeAll]

/-! ### Publishing -/

theorem publishAll_append (tree : DefineTree) (before later : List String) :
    s.publishAll tree (before ++ later) =
      (s.publishAll tree before).1.publishAll (s.publishAll tree before).2 later := by
  fun_induction publishAll s tree before with
  | case1 s tree => rfl
  | case2 s tree key rest hfind ih => rw [List.cons_append, publishAll_of_unknown hfind, ih]
  | case3 s tree key rest p hfind hp ih =>
    rw [List.cons_append, publishAll_of_known hfind, if_pos hp, ih]
  | case4 s tree key rest p hfind hp ih =>
    rw [List.cons_append, publishAll_of_known hfind, if_neg hp, ← List.append_assoc, ih]

theorem publishAll_cons (tree : DefineTree) (key : String) (rest : List String) :
    s.publishAll tree (key :: rest) =
      (s.publish tree key).1.publishAll (s.publish tree key).2 rest :=
  publishAll_append tree [key] rest

/-- What has been published is not touched again. -/
theorem find?_publishAll (tree : DefineTree) (pending : List String)
    (hpublished : s.isPublishedAt other = true) :
    (s.publishAll tree pending).1.find? other = s.find? other := by
  fun_induction publishAll s tree pending with
  | case1 s tree => rfl
  | case2 s tree key rest hfind ih => exact ih hpublished
  | case3 s tree key rest p hfind hp ih => exact ih hpublished
  | case4 s tree key rest p hfind hp ih =>
    have hne : other ≠ key := by
      rintro rfl
      exact hp (by rwa [isPublishedAt_of_find? hfind] at hpublished)
    have hmark : (s.markPublished key).find? other = s.find? other :=
      find?_update_of_ne (fun _ => rfl) hne
    rw [ih (by rwa [isPublishedAt, hmark]), hmark]

theorem nodeOf?_markPublished : (s.markPublished key).nodeOf? other = s.nodeOf? other :=
  map_find?_markPublished fun _ => rfl

theorem nodeOf?_publishAll (tree : DefineTree) (pending : List String) :
    (s.publishAll tree pending).1.nodeOf? other = s.nodeOf? other :=
  map_find?_publishAll (fun _ => rfl) tree pending

/-- Some packages have been published, each once and with the paths that it has. -/
structure Publishes (more : List String) (s : Registry) (tree : DefineTree) (t : Registry)
    (later : DefineTree) : Prop where
  nodup : more.Nodup
  fresh : ∀ key ∈ more, s.isPublishedAt key = false
  marks : ∀ key, t.isPublishedAt key = true ↔ s.isPublishedAt key = true ∨ key ∈ more
  nodes : later.nodes = tree.nodes ++ more.filterMap s.nodeOf?

theorem publishes_nil (s : Registry) (tree : DefineTree) : Publishes [] s tree s tree :=
  ⟨.nil, fun _ h => (nomatch h), fun _ => by simp, by simp⟩

/-- One package is published before some others. -/
theorem Publishes.cons {more : List String} {tree later : DefineTree}
    (hfind : s.find? key = some p) (hnew : p.isPublished = false)
    (h : Publishes more (s.markPublished key) (tree.add p.node) t later) :
    Publishes (key :: more) s tree t later := by
  have hmark (other : String) :
      (s.markPublished key).isPublishedAt other = (other == key || s.isPublishedAt other) :=
    isPublishedAt_markPublished (by simp [hfind])
  have hnode : s.nodeOf? key = some p.node := by simp [nodeOf?, hfind]
  have hnodes : (s.markPublished key).nodeOf? = s.nodeOf? := funext fun _ => nodeOf?_markPublished
  have hnotin : key ∉ more := by
    intro hmem
    have hfresh := h.fresh key hmem
    simp [hmark] at hfresh
  refine ⟨List.nodup_cons.2 ⟨hnotin, h.nodup⟩, List.forall_mem_cons.2 ⟨?_, fun other hmem => ?_⟩,
    fun other => ?_, ?_⟩
  · rw [isPublishedAt_of_find? hfind, hnew]
  · have hfresh := h.fresh other hmem
    rw [hmark, Bool.or_eq_false_iff] at hfresh
    exact hfresh.2
  · rw [h.marks, hmark, Bool.or_eq_true, beq_iff_eq, List.mem_cons]
    tauto
  · rw [h.nodes, hnodes, DefineTree.add, List.append_assoc, List.singleton_append,
      List.filterMap_cons_some hnode]

theorem exists_publishes (tree : DefineTree) (pending : List String) :
    ∃ more, Publishes more s tree (s.publishAll tree pending).1 (s.publishAll tree pending).2 := by
  fun_induction publishAll s tree pending with
  | case1 s tree => exact ⟨[], publishes_nil s tree⟩
  | case2 s tree key rest hfind ih => exact ih
  | case3 s tree key rest p hfind hp ih => exact ih
  | case4 s tree key rest p hfind hp ih =>
    obtain ⟨more, hmore⟩ := ih
    exact ⟨key :: more, hmore.cons hfind (by simpa using hp)⟩

/-! ### Merging and publishing -/

/-- Once the same packages have been merged and then published, what is merged is published, if
that was so before. -/
theorem isPublishedAt_eq_isMergedAt (tree : DefineTree) (keys : List String)
    (h : ∀ key, r.isPublishedAt key = r.isMergedAt key) (key : String) :
    ((keys.foldl mergePaths r).publishAll tree keys).1.isPublishedAt key =
      ((keys.foldl mergePaths r).publishAll tree keys).1.isMergedAt key := by
  let s := keys.foldl mergePaths r
  have hrs : SameGraph r s := sameGraph_foldl
  have hst : SameGraph s (s.publishAll tree keys).1 := sameGraph_publishAll tree keys
  have hmerged : (s.publishAll tree keys).1.isMergedAt key = s.isMergedAt key := by
    rw [isMergedAt_eq, mergeState_publishAll, ← isMergedAt_eq]
  have hmarks : (fun x => s.isPublishedAt x = true) = fun x => r.isMergedAt x = true :=
    funext fun x => by rw [isPublishedAt_foldl, h]
  by_cases hsome : (r.find? key).isSome
  · rw [Bool.eq_iff_iff, hmerged, isMergedAt_foldl_iff hsome,
      isPublishedAt_publishAll tree keys (by rwa [hrs.isSome_find?]), hmarks, hrs.reaches_iff,
      isPublishedAt_foldl, h]
  · have hnone : (s.publishAll tree keys).1.find? key = none := by
      rwa [← Option.not_isSome_iff_eq_none, hst.isSome_find?, hrs.isSome_find?]
    rw [isPublishedAt, isMergedAt, hnone]
    rfl

end Registry

end PascalWorkspace
