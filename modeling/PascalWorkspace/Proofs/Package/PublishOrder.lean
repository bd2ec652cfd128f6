import PascalWorkspace.Proofs.Package.DepthFirst
import PascalWorkspace.Proofs.Package.Publication
import PascalWorkspace.Walk.Phases

/-! What publishing a package publishes, in which order: all that a depth-first search finds from it
through needs, where the search passes over what has been published before. -/
namespace PascalWorkspace

namespace Registry

variable {r s : Registry} {key other : String} {p : Package} {keys more : List String}

/-- There is no package of this manifest, or it has been published. -/
def NothingToPublish (r : Registry) (key : String) : Prop :=
  ∀ p, r.find? key = some p → p.isPublished = true

/-- The registry with some packages marked as published. -/
def markEach (r : Registry) (keys : List String) : Registry :=
  { r with packages := r.packages.map fun p =>
      if p.manifest ∈ keys then { p with isPublished := true } else p }

theorem markEach_nil : r.markEach [] = r := by simp [markEach]

theorem markEach_cons : r.markEach (key :: keys) = (r.markPublished key).markEach keys := by
  simp only [markEach, markPublished, update, List.map_map, List.mem_cons]
  congr 2
  funext p
  by_cases hkey : p.manifest = key <;> by_cases hkeys : p.manifest ∈ keys <;> simp_all

theorem markEach_append : r.markEach (keys ++ more) = (r.markEach keys).markEach more := by
  induction keys generalizing r with
  | nil => rw [markEach_nil, List.nil_append]
  | cons key keys ih => rw [List.cons_append, markEach_cons, ih, markEach_cons]

theorem sameGraph_markEach : SameGraph r (r.markEach keys) := by
  induction keys generalizing r with
  | nil =>
    rw [markEach_nil]
    rfl
  | cons key keys ih =>
    rw [markEach_cons]
    exact sameGraph_markPublished.trans ih

theorem nodeOf?_markEach : (r.markEach keys).nodeOf? other = r.nodeOf? other := by
  induction keys generalizing r with
  | nil => rw [markEach_nil]
  | cons key keys ih => rw [markEach_cons, ih, nodeOf?_markPublished]

theorem nothingToPublish_markPublished :
    (r.markPublished key).NothingToPublish other ↔ other = key ∨ r.NothingToPublish other := by
  have hfind : (r.markPublished key).find? other = (r.find? other).map fun p =>
      if other = key then { p with isPublished := true } else p := find?_update fun _ => rfl
  rw [NothingToPublish, NothingToPublish, hfind]
  by_cases hkey : other = key <;> simp [hkey]

theorem nothingToPublish_markEach :
    (r.markEach keys).NothingToPublish other ↔ other ∈ keys ∨ r.NothingToPublish other := by
  induction keys generalizing r with
  | nil => simp [markEach_nil]
  | cons key keys ih =>
    rw [markEach_cons, ih, nothingToPublish_markPublished, List.mem_cons]
    tauto

theorem nothingToPublish_of_find?_eq_none (h : r.find? key = none) : r.NothingToPublish key :=
  fun p hp => by simp [h] at hp

theorem exists_of_not_nothingToPublish (h : ¬ r.NothingToPublish key) :
    ∃ p, r.find? key = some p ∧ p.isPublished = false := by
  simpa [NothingToPublish] using h

/-- A package that has not been published is published before those that it needs. -/
theorem publishAll_cons_of_find? (hp : s.find? key = some p) (hnew : p.isPublished = false)
    (tree : DefineTree) (rest : List String) : s.publishAll tree (key :: rest) =
      (s.markPublished key).publishAll (tree.add p.node) (s.targetsOf key ++ rest) := by
  rw [publishAll_of_known hp, if_neg (by simp [hnew]), targetsOf_of_find? hp]

/-- What is published, and in which order, is what a search visits. -/
theorem publishAll_of_depthFirst {next : String → List String} {marked : String → Prop}
    {pending order : List String} (h : DepthFirst next marked pending order)
    (hnext : ∀ x, s.targetsOf x = next x) (hmarked : ∀ x, s.NothingToPublish x ↔ marked x)
    (tree : DefineTree) :
    s.publishAll tree pending = (s.markEach order, ⟨tree.nodes ++ order.filterMap s.nodeOf?⟩) := by
  induction h generalizing s tree with
  | done => simp [publishAll, markEach_nil]
  | @skip marked key rest order hkey _ ih =>
    rw [← ih hnext hmarked]
    cases hp : s.find? key with
    | none => rw [publishAll_of_unknown hp]
    | some p => rw [publishAll_of_known hp, if_pos ((hmarked key).2 hkey p hp)]
  | @visit marked key rest below later hkey _ _ ihbelow ihlater =>
    rw [← hmarked] at hkey
    obtain ⟨p, hp, hnew⟩ := exists_of_not_nothingToPublish hkey
    have hnode : s.nodeOf? key = some p.node := by rw [nodeOf?, hp, Option.map_some]
    have hbelow := ihbelow (s := s.markPublished key)
      (fun x => by rw [sameGraph_markPublished.targetsOf, hnext])
      (fun x => by rw [nothingToPublish_markPublished, hmarked]) (tree.add p.node)
    have hlater := ihlater (s := s.markEach (key :: below))
      (fun x => by rw [sameGraph_markEach.targetsOf, hnext])
      (fun x => by rw [nothingToPublish_markEach, hmarked])
    have hfirst : (s.markPublished key).nodeOf? = s.nodeOf? := funext fun _ => nodeOf?_markPublished
    have hall : (s.markEach (key :: below)).nodeOf? = s.nodeOf? := funext fun _ => nodeOf?_markEach
    have hnodes : (tree.add p.node).nodes ++ below.filterMap s.nodeOf? ++
        later.filterMap s.nodeOf? =
          tree.nodes ++ (key :: below ++ later).filterMap s.nodeOf? := by
      simp [DefineTree.add, hnode]
    rw [publishAll_cons_of_find? hp hnew, publishAll_append, hnext, hbelow, ← markEach_cons, hlater,
      hfirst, hall, hnodes, ← markEach_append]

theorem mem_filterMap_find? : p ∈ keys.filterMap r.find? ↔
    p.manifest ∈ keys ∧ r.find? p.manifest = some p := by
  rw [List.mem_filterMap]
  constructor
  · rintro ⟨key, hkey, hp⟩
    obtain rfl := find?_manifest hp
    exact ⟨hkey, hp⟩
  · exact fun ⟨hkey, hp⟩ => ⟨p.manifest, hkey, hp⟩

end Registry

namespace Workspace

open Operation Registry

/-- Publishing a package adds one node for each package that is reached from it without passing
through one that has been published before: in the order in which a depth-first search comes to
them, behind the nodes that are there. These packages are marked, and nothing else changes. -/
theorem publishes_in_order (w : Workspace) (key : String) :
    ∃ published : List Package,
      (∀ order, DepthFirst w.registry.targetsOf w.registry.NothingToPublish [key] order ↔
        order = published.map (·.manifest)) ∧
      (published.map (·.manifest)).Nodup ∧
      (∀ p, p ∈ published ↔ w.registry.find? p.manifest = some p ∧
        Avoiding w.registry.Needs w.registry.NothingToPublish key p.manifest) ∧
      outcome (publish key) w = (.ok (), { w with
        registry := w.registry.markEach (published.map (·.manifest))
        defines := ⟨w.defines.nodes ++ published.map Package.node⟩ }) := by
  obtain ⟨order, horder⟩ := exists_depthFirst
    (fun _ => nothingToPublish_of_find?_eq_none :
      ∀ x, w.registry.find? x = none → w.registry.NothingToPublish x) w.registry.targetsOf [key]
  have hsome (x : String) (hx : x ∈ order) : (w.registry.find? x).isSome := by
    obtain ⟨p, hp, -⟩ := exists_of_not_nothingToPublish (horder.not_marked hx)
    simp [hp]
  have hmanifests : (order.filterMap w.registry.find?).map (·.manifest) = order :=
    map_manifest_filterMap hsome
  have hnodes : order.filterMap w.registry.nodeOf? =
      (order.filterMap w.registry.find?).map Package.node := by
    rw [List.map_filterMap]
    rfl
  have hpublish := publishAll_of_depthFirst horder (fun _ => rfl) (fun _ => Iff.rfl) w.defines
  refine ⟨order.filterMap w.registry.find?, fun other => ?_, ?_, fun p => ?_, ?_⟩
  · rw [hmanifests]
    exact ⟨fun h => h.unique horder, fun heq => heq ▸ horder⟩
  · rw [hmanifests]
    exact horder.nodup
  · rw [mem_filterMap_find?, horder.mem_iff, and_comm]
    simp only [List.mem_singleton, exists_eq_left]
    rfl
  · rw [hmanifests, ← hnodes]
    simp [publish, Registry.publish, outcome_modify, hpublish]

end Workspace

end PascalWorkspace
