import PascalWorkspace.Proofs.Package.Publication
import PascalWorkspace.Proofs.Walk.Publish

/-! A package is published exactly if it has been merged, once, and its node keeps the paths that it
has. No walk of a scan breaks this, not even one that fails half way. -/
namespace PascalWorkspace

/-- The nodes that packages contribute. -/
def DefineTree.packageNodes (t : DefineTree) : List DefineNode :=
  t.nodes.filter fun n => n.name ≠ "Directory"

theorem Package.node_name (p : Package) : p.node.name ≠ "Directory" := by
  intro h
  have hlist := congrArg String.toList h
  simp [Package.node, toString] at hlist

theorem DefineTree.packageNodes_add_directoryNode (t : DefineTree) (directory : String) :
    (t.add (directoryNode directory)).packageNodes = t.packageNodes := by
  simp [DefineTree.packageNodes, DefineTree.add, directoryNode]

theorem DefineTree.packageNodes_append {t later : DefineTree} {r : Registry} {keys : List String}
    (h : later.nodes = t.nodes ++ keys.filterMap r.nodeOf?) :
    later.packageNodes = t.packageNodes ++ keys.filterMap r.nodeOf? := by
  have hall : ∀ n ∈ keys.filterMap r.nodeOf?, decide (n.name ≠ "Directory") = true := by
    intro n hn
    obtain ⟨key, -, hkey⟩ := List.mem_filterMap.1 hn
    obtain ⟨p, -, rfl⟩ := Option.map_eq_some_iff.1 hkey
    exact decide_eq_true p.node_name
  rw [DefineTree.packageNodes, h, List.filter_append, List.filter_eq_self.2 hall]
  rfl

namespace Workspace

open Operation Registry

variable {source : ManifestSource} {h : Host} {visit : Visit} {packages : List Package}
  {before : List DefineNode} {keys : List String} {w v : Workspace} {ignored : List String}
  {directory : Path}

/-- Some packages have been published in order, those that have been merged. The nodes that they
have contributed show them as they are. -/
structure Mirror (before : List DefineNode) (keys : List String) (w : Workspace) : Prop where
  nodup : keys.Nodup
  published : ∀ key, w.registry.isPublishedAt key = true ↔ key ∈ keys
  merged : ∀ key, w.registry.isPublishedAt key = w.registry.isMergedAt key
  nodes : w.defines.packageNodes = before ++ keys.filterMap w.registry.nodeOf?

/-- More packages may have been published. Those that were look as before. -/
def Extends (w v : Workspace) : Prop :=
  ∀ before keys, Mirror before keys w → ∃ more, Mirror before (keys ++ more) v ∧
    ∀ key ∈ keys, v.registry.shown? key = w.registry.shown? key

instance : IsPreorder Workspace Extends where
  refl w before keys hw := ⟨[], by rwa [List.append_nil], fun _ _ => rfl⟩
  trans w v u hwv hvu before keys hw := by
    obtain ⟨more, hv, hkept⟩ := hwv before keys hw
    obtain ⟨most, hu, hlater⟩ := hvu before (keys ++ more) hv
    refine ⟨more ++ most, by rwa [← List.append_assoc], fun key hkey => ?_⟩
    rw [hlater key (List.mem_append_left more hkey), hkept key hkey]

theorem mirror_empty (hw : w.registry = {}) : Mirror w.defines.packageNodes [] w where
  nodup := .nil
  published key := by simp [hw, isPublishedAt, find?]
  merged key := by simp [hw, isPublishedAt, isMergedAt, find?]
  nodes := by simp

/-- Where nothing is published the nodes stay true. -/
theorem extends_of_quiet (hquiet : Quiet source w v) : Extends w v := by
  intro before keys hw
  have hkept : ∀ key ∈ keys, v.registry.shown? key = w.registry.shown? key := fun key hkey =>
    hquiet.registry.shown?_of_registered (isSome_find?_of_isPublishedAt ((hw.published key).2 hkey))
  refine ⟨[], ?_, hkept⟩
  rw [List.append_nil]
  refine ⟨hw.nodup, fun key => ?_, fun key => ?_, ?_⟩
  · rw [hquiet.registry.isPublishedAt]
    exact hw.published key
  · rw [hquiet.registry.isPublishedAt, hquiet.registry.isMergedAt]
    exact hw.merged key
  · rw [hquiet.defines, hw.nodes]
    exact congrArg (before ++ ·)
      (List.filterMap_congr fun key hkey => (nodeOf?_of_shown (hkept key hkey)).symm)

instance : IgnoresLog Extends where
  log w log before keys hw :=
    ⟨[], by rw [List.append_nil]; exact ⟨hw.nodup, hw.published, hw.merged, hw.nodes⟩,
      fun _ _ => rfl⟩

theorem extends_addDirectory (directory : String) :
    Keeps Extends (addNode (directoryNode directory)) := by
  intro w before keys hw
  refine ⟨[], ?_, fun _ _ => rfl⟩
  rw [List.append_nil]
  refine ⟨hw.nodup, hw.published, hw.merged, ?_⟩
  exact (DefineTree.packageNodes_add_directoryNode _ _).trans hw.nodes

/-! ### Merging and publishing the packages of a directory -/

theorem outcome_publishAndReport (p : Package) (w : Workspace) :
    ∃ log, outcome (publishAndReport p) w =
      (.ok (), ⟨(w.registry.publish w.defines p.manifest).1,
        (w.registry.publish w.defines p.manifest).2, log⟩) := ⟨_, rfl⟩

theorem outcome_forM_publishAndReport (packages : List Package) (w : Workspace) :
    ∃ log, outcome (packages.forM publishAndReport) w = (.ok (), ⟨
      (w.registry.publishAll w.defines (packages.map (·.manifest))).1,
      (w.registry.publishAll w.defines (packages.map (·.manifest))).2, log⟩) := by
  induction packages generalizing w with
  | nil =>
    refine ⟨w.log, ?_⟩
    rw [List.map_nil, publishAll]
    rfl
  | cons p packages ih =>
    obtain ⟨log, hfirst⟩ := outcome_publishAndReport p w
    obtain ⟨later, hrest⟩ := ih ⟨(w.registry.publish w.defines p.manifest).1,
      (w.registry.publish w.defines p.manifest).2, log⟩
    refine ⟨later, (outcome_bind_ok _ hfirst).trans ?_⟩
    rw [hrest, List.map_cons, publishAll_cons]

/-- The packages of a directory are merged and published in one go. -/
theorem extends_of_publishAll (pending : List String) (log : Log) :
    Extends w ⟨((pending.foldl Registry.mergePaths w.registry).publishAll w.defines pending).1,
      ((pending.foldl Registry.mergePaths w.registry).publishAll w.defines pending).2, log⟩ := by
  intro before keys hw
  let s := pending.foldl Registry.mergePaths w.registry
  obtain ⟨more, hmore⟩ := exists_publishes (s := s) w.defines pending
  -- What has been published before is merged, so neither merging nor publishing touches it.
  have hmerged (key : String) (hkey : key ∈ keys) : s.find? key = w.registry.find? key := by
    refine find?_foldl_mergePaths ?_
    rw [← hw.merged]
    exact (hw.published key).2 hkey
  have hold (key : String) : s.isPublishedAt key = true ↔ key ∈ keys := by
    rw [isPublishedAt_foldl]
    exact hw.published key
  refine ⟨more, ⟨?_, fun key => ?_, ?_, ?_⟩, fun key hkey => ?_⟩
  · refine hw.nodup.append hmore.nodup fun key hkey hnew => ?_
    have hfresh := hmore.fresh key hnew
    simp [(hold key).2 hkey] at hfresh
  · rw [hmore.marks, hold, List.mem_append]
  · exact isPublishedAt_eq_isMergedAt w.defines pending hw.merged
  · have hnodes : (s.publishAll w.defines pending).1.nodeOf? = s.nodeOf? :=
      funext fun _ => nodeOf?_publishAll w.defines pending
    have hkept : keys.filterMap w.registry.nodeOf? = keys.filterMap s.nodeOf? := by
      refine List.filterMap_congr fun key hkey => ?_
      rw [nodeOf?, nodeOf?, hmerged key hkey]
    rw [DefineTree.packageNodes_append hmore.nodes, hw.nodes, hnodes, List.filterMap_append, hkept,
      List.append_assoc]
  · have hpublished := find?_publishAll w.defines pending ((hold key).2 hkey)
    rw [shown?, hpublished, hmerged key hkey, shown?]

/-- Nothing can fail between the merges and the publications of a directory. -/
theorem extends_mergeAndPublish (packages : List Package) :
    Keeps Extends (do
      packages.forM fun p => mergePaths p.manifest
      packages.forM publishAndReport) := by
  intro w
  obtain ⟨log, hpublish⟩ := outcome_forM_publishAndReport packages
    { w with registry := (packages.map (·.manifest)).foldl Registry.mergePaths w.registry }
  have hmerge := outcome_forM_mergePaths (·.manifest) packages w
  rw [after, outcome_bind_ok _ hmerge, hpublish]
  exact extends_of_publishAll _ log

/-! ### The walks -/

theorem extends_tryRegister (source : ManifestSource) (path : String) :
    Keeps Extends (tryRegister source path) :=
  fun w => extends_of_quiet (quiet_tryRegister source path w)

theorem extends_resolveBelow : Keeps Extends (resolveBelow h source ignored directory) :=
  fun w => extends_of_quiet (quiet_resolveBelow w)

theorem extends_repairBelow : Keeps Extends (repairBelow h source ignored directory) :=
  fun w => extends_of_quiet (quiet_repairBelow w)

theorem extends_publishVisit : Keeps Extends (publishVisit h source visit) := by
  refine keeps_bind (keeps_report _ _ _) fun _ => ?_
  refine keeps_bind (keeps_ofPathResult _) fun place => ?_
  refine keeps_bind (extends_addDirectory place) fun _ => ?_
  refine keeps_bind (keeps_listedManifests visit) fun manifests => ?_
  refine keeps_bind ?_ fun packages => extends_mergeAndPublish packages
  exact keeps_forManifests (fun _ => keeps_pure _) fun m _ => extends_tryRegister source m.toString

theorem extends_publishBelow : Keeps Extends (publishBelow h source ignored directory) :=
  keeps_forM fun _ _ => extends_publishVisit

end Workspace

end PascalWorkspace
