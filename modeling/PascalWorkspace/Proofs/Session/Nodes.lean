import PascalWorkspace.Proofs.Session.Scan
import PascalWorkspace.Proofs.Session.Targets

/-! The package nodes of a session that scans, again and again and whether or not it fails: they are
those of the published packages, and what has been published is final. -/
namespace PascalWorkspace

/-- A node applies the merged paths of a package to its directory and everything below. -/
structure DefineNode.Carries (n : DefineNode) (p : Package) : Prop where
  directory : n.directory = p.directory
  defines : n.defines.map (fun d => (d.variableName, d.paths, d.recursive)) =
    [(unitVariable, p.mergedPaths.units, true), (includeVariable, p.mergedPaths.includes, true),
      (sourceVariable, p.mergedPaths.sources, true)]

theorem Package.carries_node (p : Package) : p.node.Carries p := ⟨rfl, rfl⟩

namespace Workspace

open Registry

variable {before : List DefineNode} {keys more : List String} {p : Package} {w v : Workspace}

/-- The packages that are published are those that are merged, and each has one package node. -/
structure Mirrors (w : Workspace) : Prop where
  published : ∀ p ∈ w.registry.packages, p.isPublished = true ↔ p.isMerged = true
  nodes : ∃ order : List Package, (order.map (·.manifest)).Nodup ∧
    (∀ p, p ∈ order ↔ p ∈ w.registry.packages ∧ p.isPublished = true) ∧
    List.Forall₂ DefineNode.Carries w.defines.packageNodes order

/-- The packages behind the nodes are all different. -/
theorem Mirror.nodup_order (h : Mirror before keys w) :
    ((keys.filterMap w.registry.find?).map (·.manifest)).Nodup := by
  rw [map_manifest_filterMap fun key hkey =>
    isSome_find?_of_isPublishedAt ((h.published key).2 hkey)]
  exact h.nodup

/-- They are those that are published. -/
theorem Mirror.mem_order (h : Mirror before keys w) (hw : w.registry.Distinct) :
    p ∈ keys.filterMap w.registry.find? ↔ p ∈ w.registry.packages ∧ p.isPublished = true := by
  rw [List.mem_filterMap]
  constructor
  · rintro ⟨key, hkey, hfind⟩
    rw [← h.published, isPublishedAt_of_find? hfind] at hkey
    exact ⟨find?_mem hfind, hkey⟩
  · rintro ⟨hp, hpublished⟩
    have hfind := find?_of_mem hw hp
    refine ⟨p.manifest, ?_, hfind⟩
    rw [← h.published, isPublishedAt_of_find? hfind, hpublished]

theorem Mirror.packageNodes_eq (h : Mirror [] keys w) :
    w.defines.packageNodes = (keys.filterMap w.registry.find?).map Package.node := by
  rw [h.nodes, List.nil_append, List.map_filterMap]
  rfl

theorem Mirror.mirrors (h : Mirror [] keys w) (hw : w.registry.Distinct) : w.Mirrors := by
  refine ⟨fun p hp => ?_, keys.filterMap w.registry.find?, h.nodup_order, fun p => h.mem_order hw,
    ?_⟩
  · have hfind := find?_of_mem hw hp
    have hmerged := h.merged p.manifest
    rw [isPublishedAt_of_find? hfind, isMergedAt_of_find? hfind] at hmerged
    rw [hmerged]
  · rw [h.packageNodes_eq, List.forall₂_map_left_iff, List.forall₂_same]
    exact fun p _ => p.carries_node

/-- The nodes that packages have contributed stay in front. -/
theorem Mirror.packageNodes_prefix (hw : Mirror [] keys w) (hv : Mirror [] (keys ++ more) v)
    (hkept : ∀ key ∈ keys, v.registry.shown? key = w.registry.shown? key) :
    w.defines.packageNodes <+: v.defines.packageNodes := by
  have hsame : keys.filterMap v.registry.nodeOf? = keys.filterMap w.registry.nodeOf? :=
    List.filterMap_congr fun key hkey => nodeOf?_of_shown (hkept key hkey)
  rw [hw.nodes, hv.nodes, List.filterMap_append, hsame]
  exact List.prefix_append _ _

/-- A package that shows as before is still there, with the same paths. -/
theorem exists_of_shown (hfind : w.registry.find? p.manifest = some p)
    (hkept : v.registry.shown? p.manifest = w.registry.shown? p.manifest) :
    ∃ q ∈ v.registry.packages, q.manifest = p.manifest ∧ q.isPublished = p.isPublished ∧
      q.directory = p.directory ∧ q.mergedPaths = p.mergedPaths := by
  rw [shown?_of_find? hfind] at hkept
  obtain ⟨q, hq, hshown⟩ := Option.map_eq_some_iff.1 hkept
  have hview {β : Type} (view : Package → β) : view q.shown = view p.shown := congrArg view hshown
  exact ⟨q, find?_mem hq, find?_manifest hq, hview (·.isPublished), hview (·.directory),
    hview (·.mergedPaths)⟩

end Workspace

namespace Session

open Operation Registry

/-- A call that scans, as such or to serve a request. -/
def Call.isScan : Call → Bool
  | .scan .. => true
  | .serve .. => true
  | _ => false

theorem extends_perform (s : Session) {c : Call} (hc : c.isScan = true) :
    OnWorkspace Workspace.Extends s (s.perform c) := by
  cases c with
  | scan h source root => exact extends_scan h source root s
  | serve surroundings params => exact Handshake.keeps_serve extends_scan params s
  | _ => cases hc

theorem extends_performAll (s : Session) {calls : List Call}
    (hcalls : ∀ c ∈ calls, c.isScan = true) :
    OnWorkspace Workspace.Extends s (s.performAll calls) := by
  induction calls generalizing s with
  | nil => exact refl_of (OnWorkspace Workspace.Extends) s
  | cons c calls ih =>
    obtain ⟨hc, hrest⟩ := List.forall_mem_cons.1 hcalls
    exact trans_of (OnWorkspace Workspace.Extends) (extends_perform s hc) (ih (s.perform c) hrest)

/-- However often a session scans, the packages that are published are those that are merged, and
the package nodes are theirs, one for each, with its directory and its merged paths. What has been
published is neither published again nor changed later. -/
theorem mirrors_performAll (s : Session) (earlier later : List Call)
    (hregistry : s.workspace.registry = {}) (hdefines : s.workspace.defines = {})
    (hearlier : ∀ c ∈ earlier, c.isScan = true) (hlater : ∀ c ∈ later, c.isScan = true) :
    (s.performAll earlier).workspace.Mirrors ∧
      (s.performAll earlier).workspace.defines.packageNodes <+:
        (s.performAll (earlier ++ later)).workspace.defines.packageNodes ∧
      ∀ p ∈ (s.performAll earlier).workspace.registry.packages, p.isPublished = true →
        ∃ q ∈ (s.performAll (earlier ++ later)).workspace.registry.packages,
          q.manifest = p.manifest ∧ q.isPublished = true ∧ q.directory = p.directory ∧
          q.mergedPaths = p.mergedPaths := by
  have hbegin : Workspace.Mirror [] [] s.workspace := by
    have hempty := Workspace.mirror_empty hregistry
    rwa [hdefines] at hempty
  have hdistinct := (sound_performAll hregistry earlier).distinct
  obtain ⟨keys, hfirst, -⟩ := extends_performAll s hearlier [] [] hbegin
  obtain ⟨more, hsecond, hkept⟩ :=
    extends_performAll (s.performAll earlier) hlater [] ([] ++ keys) hfirst
  have hsplit : s.performAll (earlier ++ later) = (s.performAll earlier).performAll later :=
    List.foldl_append
  rw [List.nil_append] at hfirst hsecond hkept
  rw [hsplit]
  refine ⟨hfirst.mirrors hdistinct, hfirst.packageNodes_prefix hsecond hkept, fun p hp hpub => ?_⟩
  have hfind := find?_of_mem hdistinct hp
  have hkey : p.manifest ∈ keys := by
    rw [← hfirst.published, isPublishedAt_of_find? hfind, hpub]
  obtain ⟨q, hq, hmanifest, hsame, hdirectory, hpaths⟩ :=
    Workspace.exists_of_shown hfind (hkept p.manifest hkey)
  exact ⟨q, hq, hmanifest, hsame.trans hpub, hdirectory, hpaths⟩

/-- The second of two scans leaves what the first one has published. -/
theorem mirrors_performAll_loop :
    ({} : Session).workspace.registry = {} ∧ ({} : Session).workspace.defines = {} ∧
      (({} : Session).performAll [.scan loopHost loopSource loopRoot]).workspace.Mirrors ∧
      ∃ q ∈ (({} : Session).performAll ([.scan loopHost loopSource loopRoot] ++
          [.scan loopHost loopSource loopRoot])).workspace.registry.packages,
        q.manifest = "/b.lpk" ∧ q.isPublished = true ∧ q.directory = "/" ∧
        q.mergedPaths = ⟨["b", "a"], [], []⟩ := by
  let calls : List Call := [.scan loopHost loopSource loopRoot]
  have hcalls : ∀ c ∈ calls, c.isScan = true := by simp [calls, Call.isScan]
  obtain ⟨hmirrors, -, hkept⟩ := mirrors_performAll {} calls calls rfl rfl hcalls hcalls
  obtain ⟨t, hok, hloop⟩ := scan_loop
  have hscan : ({} : Session).performAll calls = t := congrArg Prod.snd hok
  have hp : loop.packages[1] ∈ (({} : Session).performAll calls).workspace.registry.packages := by
    rw [hscan, hloop]
    exact List.getElem_mem _
  exact ⟨rfl, rfl, hmirrors, hkept _ hp rfl⟩

end Session

end PascalWorkspace
