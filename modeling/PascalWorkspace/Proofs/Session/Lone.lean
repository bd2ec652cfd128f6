import PascalWorkspace.Proofs.Session.Calls

/-! A scan that comes upon one manifest only, which needs no other. The session is left with its
package, for which every phase is over and whose search paths are those that it declares. -/
namespace PascalWorkspace

namespace Session

open Operation

variable {h : Host} {source : ManifestSource} {root path : Path} {key place : String}
  {m : Manifest} {s : Session} {p : Package} {names : NameIndex} {requested : List String}
  {defines : DefineTree} {log : Log}

/-- The package of a manifest as the scan leaves it. -/
def lonePackage (key : String) (m : Manifest) : Package :=
  { Package.ofManifest key m with
    mergedPaths := m.paths, isResolved := true, isMerged := true, isPublished := true }

theorem find?_lone : (⟨[p], names, requested⟩ : Registry).find? p.manifest = some p := by
  simp [Registry.find?]

theorem update_lone {f : Package → Package} :
    (⟨[p], names, requested⟩ : Registry).update p.manifest f = ⟨[f p], names, requested⟩ := by
  simp [Registry.update]

theorem outcome_tryRegister_lone (hkey : source.canonical path.toString = .ok p.manifest) :
    outcome (Workspace.tryRegister source path.toString) ⟨⟨[p], names, requested⟩, defines, log⟩ =
      (.ok (.ok p), ⟨⟨[p], names, requested⟩, defines, log⟩) := by
  rw [Workspace.outcome_tryRegister, after, Workspace.outcome_register_known hkey find?_lone]
  rfl

section Alone

variable (hp : p.dependencies = [])
include hp

theorem dependencyRefs_lone : p.dependencyRefs = [] := by
  simp [Package.dependencyRefs, hp]

theorem targets_lone : p.targets = [] := by
  simp [Package.targets, hp]

theorem outcome_resolve_lone (hnew : p.isResolved = false) :
    outcome (Workspace.resolve source p.manifest) ⟨⟨[p], names, requested⟩, defines, log⟩ =
      (.ok (), ⟨⟨[{ p with isResolved := true }], names, requested⟩, defines, log⟩) := by
  rw [Workspace.resolve, outcome_bind, outcome_get]
  simp only [find?_lone, dependencyRefs_lone hp, hnew]
  rw [if_neg Bool.false_ne_true, outcome_bind, Workspace.outcome_changeRegistry]
  dsimp only
  rw [Workspace.resolveAll, Registry.markResolved, update_lone]
  rfl

theorem outcome_repair_lone :
    outcome (Workspace.repair p.manifest) ⟨⟨[p], names, requested⟩, defines, log⟩ =
      (.ok (), ⟨⟨[p], names, requested⟩, defines, log⟩) := by
  rw [Workspace.repair, outcome_bind, outcome_get]
  simp only [find?_lone, dependencyRefs_lone hp]
  rfl

theorem mergePaths_lone (hnew : p.isMerged = false) :
    (⟨[p], names, requested⟩ : Registry).mergePaths p.manifest =
      ⟨[{ p with isMerged := true, mergedPaths := p.paths }], names, requested⟩ := by
  have htasks : Registry.mergeTasks p = [] := by
    rw [Registry.mergeTasks, targets_lone hp, List.flatMap_nil]
  rw [Registry.mergePaths, Registry.mergeAll_of_known find?_lone, if_neg (by simp [hnew]), htasks,
    Registry.beginMerge, update_lone, List.nil_append, Registry.mergeAll]

theorem publish_lone (hnew : p.isPublished = false) :
    ((⟨[p], names, requested⟩ : Registry).publish defines p.manifest).1 =
      ⟨[{ p with isPublished := true }], names, requested⟩ := by
  rw [Registry.publish, Registry.publishAll_of_known find?_lone, if_neg (by simp [hnew]),
    targets_lone hp, Registry.markPublished, update_lone, List.nil_append, Registry.publishAll]

theorem reached_publishVisit_lone (hroot : h.canonical root.toString = .ok place)
    (hkey : source.canonical path.toString = .ok p.manifest) (hmerged : p.isMerged = false)
    (hpublished : p.isPublished = false) :
    reached (Workspace.publishVisit h source ⟨root, .ok [path]⟩)
        ⟨⟨[p], names, requested⟩, defines, log⟩ =
      (.ok (), ⟨[{ p with mergedPaths := p.paths, isMerged := true, isPublished := true }],
        names, requested⟩) := by
  let q : Package := { p with mergedPaths := p.paths, isMerged := true }
  have hpublish (defines : DefineTree) : ((⟨[q], names, requested⟩ : Registry).publish defines
      q.manifest).1 = ⟨[{ q with isPublished := true }], names, requested⟩ := publish_lone hp hpublished
  simp only [reached, Workspace.publishVisit, outcome_bind, Workspace.outcome_report, hroot,
    outcome_ofPathResult_ok, Workspace.addNode, outcome_modify, Workspace.listedManifests,
    outcome_pure, Workspace.forManifests, outcome_tryRegister_lone hkey, outcome_forM_singleton,
    Workspace.mergePaths, Workspace.outcome_changeRegistry, mergePaths_lone hp hmerged,
    Workspace.publishAndReport, Workspace.publish, outcome_get]
  exact congrArg (Prod.mk _) (hpublish _)

end Alone

/-- A scan that comes upon one manifest, which needs no other, ends well with its package. -/
theorem scan_lone (hvisits : Visit.all h s.settings.ignoredNames root = [⟨root, .ok [path]⟩])
    (hroot : h.canonical root.toString = .ok place)
    (hkey : source.canonical path.toString = .ok key) (hread : source.read key = .ok m)
    (hm : m.requirements = []) (hs : s.workspace.registry = {}) :
    ∃ t, outcome (scan h source root) s = (.ok (), t) ∧
      t.workspace.registry.packages = [lonePackage key m] := by
  let p := Package.ofManifest key m
  let names : NameIndex := [(Text.lowercase m.name, key)]
  let q : Package := { p with isResolved := true }
  have hp : p.dependencies = [] := by
    simp [p, Package.ofManifest, hm]
  obtain ⟨log, hask⟩ : ∃ log, outcome (Workspace.tryRegister source path.toString) s.workspace =
      (.ok (.ok p), ⟨⟨[p], names, [key]⟩, s.workspace.defines, log⟩) := by
    have hnew : s.workspace.registry.find? key = none := by
      rw [hs]
      rfl
    rw [Workspace.outcome_tryRegister, after, Workspace.outcome_register_new hkey hnew hread, hs]
    exact ⟨_, rfl⟩
  have hagain (defines : DefineTree) (log : Log) :
      outcome (Workspace.tryRegister source path.toString) ⟨⟨[q], names, [key]⟩, defines, log⟩ =
        (.ok (.ok q), ⟨⟨[q], names, [key]⟩, defines, log⟩) := outcome_tryRegister_lone hkey
  have hresolve : reached (Workspace.resolveBelow h source s.settings.ignoredNames root)
      s.workspace = (.ok 1, ⟨[q], names, [key]⟩) := by
    rw [Workspace.resolveBelow, hvisits]
    simp only [reached, Workspace.forPackages, Workspace.listedManifests, Workspace.forManifests,
      outcome_bind, outcome_pure, hask, outcome_resolve_lone hp rfl]
    rfl
  have hrepair (defines : DefineTree) (log : Log) :
      reached (Workspace.repairBelow h source s.settings.ignoredNames root)
        ⟨⟨[q], names, [key]⟩, defines, log⟩ = (.ok 1, ⟨[q], names, [key]⟩) := by
    rw [Workspace.repairBelow, hvisits]
    simp only [reached, Workspace.forPackages, Workspace.listedManifests, Workspace.forManifests,
      outcome_bind, outcome_pure, hagain, outcome_repair_lone (p := q) hp]
    rfl
  have hpublish (defines : DefineTree) (log : Log) :
      reached (Workspace.publishBelow h source s.settings.ignoredNames root)
        ⟨⟨[q], names, [key]⟩, defines, log⟩ = (.ok (), ⟨[lonePackage key m], names, [key]⟩) := by
    rw [Workspace.publishBelow, hvisits, reached, outcome_forM_singleton]
    exact reached_publishVisit_lone (p := q) hp hroot hkey rfl rfl
  obtain ⟨t, hok, hregistry⟩ := exists_scan s hresolve hrepair hpublish
  exact ⟨t, hok, congrArg (·.packages) hregistry⟩

end Session

end PascalWorkspace
