import Mathlib
import PascalWorkspace.Proofs.Package.Cycle
import PascalWorkspace.Proofs.Session.Calls
import PascalWorkspace.Proofs.Walk.Nodes
import PascalWorkspace.Proofs.Walk.Visits

/-! What a scan leaves of a session in which no package was registered before: every phase is over
for every package, the packages on the way are repaired as far as they can be, and search paths are
complete up to cycles. -/
namespace PascalWorkspace

namespace Session

open Operation Registry

variable {s t : Session} {h : Host} {source : ManifestSource} {root : Path} {r : Registry}
  {visits : List Visit}

/-- Before its last walk a scan knows all packages and their final dependencies. What is left is to
merge and to publish. -/
structure Scanned (source : ManifestSource) (visits : List Visit) (r t : Registry) : Prop where
  explored : Workspace.Explored source visits r
  fills : Fills r ∅ r t
  merged : ∀ key, (r.find? key).isSome → t.isMergedAt key = true
  unknown : ∀ ref : DependencyRef, ref.manifest ∈ listedKeys source visits →
    ∀ d, r.dependency? ref = some d → d.target = none → ¬ r.Knows ref.manifest d.name

theorem exists_scanned (hs : s.workspace.registry = {})
    (hok : outcome (scan h source root) s = (.ok (), t)) :
    ∃ r, Scanned source (Visit.all h s.settings.ignoredNames root) r t.workspace.registry := by
  obtain ⟨found, repaired, v, w, x, hresolve, hrepair, hpublish, ht, -⟩ := walks_of_scan hok
  have hfirst := Workspace.explored_of_resolveBelow hs hresolve
  obtain ⟨hsecond, hmended, hsettled⟩ := Workspace.mended_of_repairBelow hfirst hrepair
  have hbegin : Fills w.registry ∅ w.registry w.registry :=
    fills_refl (owned_of_unmerged hsecond.unmerged) fun _ h => nomatch h
  obtain ⟨hfills, hroots⟩ :=
    Workspace.isMergedAt_of_publishBelow hsecond lasting_fills hbegin hpublish
  rw [← ht] at hfills hroots
  refine ⟨w.registry, hsecond, hfills, fun key hkey => ?_, fun ref href d hd hopen hknows => ?_⟩
  · obtain ⟨root, hroot, hsome, hneeded⟩ := hsecond.rooted key hkey
    exact hfills.isMergedAt_of_needed hsecond.unmerged (hroots root hroot hsome) hneeded hkey
  · exact hsettled ref href d hd (hmended.repaired.knows_iff.1 hknows) hopen

section Scanned

variable {t : Registry} (hscan : Scanned source visits r t)
include hscan

theorem Scanned.same : SameGraph r t := hscan.fills.owned.same

theorem Scanned.find? {p : Package} (hp : p ∈ t.packages) :
    t.find? p.manifest = some p ∧ (r.find? p.manifest).isSome := by
  have hfind := find?_of_mem (hscan.same.distinct hscan.explored.sound.distinct) hp
  refine ⟨hfind, ?_⟩
  rw [← hscan.same.isSome_find?, hfind]
  rfl

theorem Scanned.pathsOf {p : Package} (hp : p ∈ t.packages) : r.pathsOf p.manifest = p.paths := by
  rw [← hscan.same.pathsOf, pathsOf_of_find? (hscan.find? hp).1]

theorem Scanned.mergedOf {p : Package} (hp : p ∈ t.packages) :
    t.isMergedAt p.manifest = true ∧ t.mergedOf p.manifest = p.mergedPaths := by
  obtain ⟨hfind, hsome⟩ := hscan.find? hp
  exact ⟨hscan.merged p.manifest hsome, mergedOf_of_find? hfind⟩

theorem Scanned.resolved_and_merged {p : Package} (hp : p ∈ t.packages) :
    p.isResolved = true ∧ p.isMerged = true := by
  obtain ⟨hfind, hsome⟩ := hscan.find? hp
  constructor
  · rw [← isResolvedAt_of_find? hfind, hscan.same.isResolvedAt]
    exact hscan.explored.resolved p.manifest hsome
  · rw [← isMergedAt_of_find? hfind]
    exact hscan.merged p.manifest hsome

end Scanned

/-! ### Every phase is over -/

theorem extends_scan (h : Host) (source : ManifestSource) (root : Path) :
    Keeps (OnWorkspace Workspace.Extends) (scan h source root) :=
  keeps_scan (fun _ => Workspace.extends_resolveBelow) (fun _ => Workspace.extends_repairBelow)
    fun _ => Workspace.extends_publishBelow

/-- A scan that ends well has looked for the dependencies of every registered package, has merged
its paths and has published it, also if the package lies outside the directories that it walks. -/
theorem finished_of_scan (h : Host) (source : ManifestSource) (root : Path) (s t : Session)
    (hs : s.workspace.registry = {}) (hok : outcome (scan h source root) s = (.ok (), t)) :
    ∀ p ∈ t.workspace.registry.packages,
      p.isResolved = true ∧ p.isMerged = true ∧ p.isPublished = true := by
  intro p hp
  obtain ⟨r, hscan⟩ := exists_scanned hs hok
  obtain ⟨hresolved, hmerged⟩ := hscan.resolved_and_merged hp
  have hfind := (hscan.find? hp).1
  have hextends : Workspace.Extends s.workspace t.workspace :=
    (extends_scan h source root).of_outcome hok
  obtain ⟨more, hmirror, -⟩ := hextends _ [] (Workspace.mirror_empty hs)
  have hflags := hmirror.merged p.manifest
  rw [isPublishedAt_of_find? hfind, isMergedAt_of_find? hfind] at hflags
  exact ⟨hresolved, hmerged, hflags.trans hmerged⟩

/-- A machine on which a walk comes upon one manifest. -/
def loopHost : Host where
  tree := ⟨[(["w"], .directory), (["w", "a.lpk"], .file [])]⟩
  cwd := []
  environment := []
  homes := []

def loopRoot : Path := ⟨.root, ["w"]⟩

def loopFile : Path := ⟨.root, ["w", "a.lpk"]⟩

/-- The manifest needs two others, which lie elsewhere, and one that is nowhere. The first of them
needs it in turn, and the second without saying where that is. -/
def loopSource : ManifestSource where
  canonical := .ok
  read := (ManifestSource.ofTable loopHost [
    ("/w/a.lpk", ⟨"A", "/w", ⟨["a"], [], []⟩,
      [⟨"B", "/b.lpk", false⟩, ⟨"C", "/c.lpk", false⟩, ⟨"D", "", false⟩]⟩),
    ("/b.lpk", ⟨"B", "/", ⟨["b"], [], []⟩, [⟨"A", "", false⟩, ⟨"C", "", false⟩]⟩),
    ("/c.lpk", ⟨"C", "/", ⟨["c"], [], []⟩, []⟩)]).read
  capacity := 3

/-- The packages as they are when their dependencies have been looked for. -/
def resolvedLoop : Registry where
  packages := [
    { manifest := "/w/a.lpk", name := "A", directory := "/w", paths := ⟨["a"], [], []⟩,
      dependencies := [⟨⟨"B", "/b.lpk", false⟩, some "/b.lpk"⟩,
        ⟨⟨"C", "/c.lpk", false⟩, some "/c.lpk"⟩, ⟨⟨"D", "", false⟩, none⟩],
      requiredBy := ["/b.lpk"], isResolved := true },
    { manifest := "/b.lpk", name := "B", directory := "/", paths := ⟨["b"], [], []⟩,
      dependencies := [⟨⟨"A", "", false⟩, some "/w/a.lpk"⟩, ⟨⟨"C", "", false⟩, none⟩],
      requiredBy := ["/w/a.lpk"], isResolved := true },
    { manifest := "/c.lpk", name := "C", directory := "/", paths := ⟨["c"], [], []⟩,
      dependencies := [], requiredBy := ["/w/a.lpk"], isResolved := true }]
  byName := [("a", "/w/a.lpk"), ("b", "/b.lpk"), ("c", "/c.lpk")]
  requested := ["/w/a.lpk", "/b.lpk", "/c.lpk"]

/-- The packages as a scan leaves them. The second has not been repaired and lacks the path of the
third. -/
def loop : Registry where
  packages := List.zipWith
    (fun p units => { p with
      mergedPaths := ⟨units, [], []⟩, isMerged := true, isPublished := true })
    resolvedLoop.packages [["a", "b", "a", "c"], ["b", "a"], ["c"]]
  byName := resolvedLoop.byName
  requested := resolvedLoop.requested

theorem locate_loop : loopHost.locate loopRoot = .ok ["w"] ∧
    loopHost.locate loopFile = .ok ["w", "a.lpk"] := by
  constructor <;>
  · simp [loopRoot, loopFile, loopHost, Host.locate, Host.start, FileTree.locate, FileTree.follow,
      FileTree.entryAt, FileTree.maxNameBytes, Path.isAbsolute]
    decide

theorem visits_loop : Visit.all loopHost [] loopRoot = [⟨loopRoot, .ok [loopFile]⟩] := by
  have hnames : loopHost.childNames loopRoot = .ok ["a.lpk"] := by
    rw [Host.childNames, locate_loop.1]
    decide
  exact Visit.all_of_only_child (by decide) hnames (by decide) locate_loop.2 rfl (by decide)

theorem resolve_loop : reached (Workspace.resolveBelow loopHost loopSource [] loopRoot) {} =
    (.ok 1, resolvedLoop) := by
  rw [Workspace.resolveBelow, visits_loop]
  -- Runs are evaluated by the equations that the whole library has for texts and states.
  cbv

theorem repair_loop (defines : DefineTree) (log : Log) :
    reached (Workspace.repairBelow loopHost loopSource [] loopRoot) ⟨resolvedLoop, defines, log⟩ =
      (.ok 1, resolvedLoop) := by
  rw [Workspace.repairBelow, visits_loop]
  cbv

theorem publish_loop (defines : DefineTree) (log : Log) :
    reached (Workspace.publishBelow loopHost loopSource [] loopRoot) ⟨resolvedLoop, defines, log⟩ =
      (.ok (), loop) := by
  rw [Workspace.publishBelow, visits_loop]
  cbv

theorem scan_loop : ∃ t, outcome (scan loopHost loopSource loopRoot) {} = (.ok (), t) ∧
    t.workspace.registry = loop :=
  exists_scan {} resolve_loop repair_loop publish_loop

/-- Two of the three packages lie outside the directory that was walked. -/
theorem finished_of_scan_loop :
    ∃ t, outcome (scan loopHost loopSource loopRoot) {} = (.ok (), t) ∧
      ({} : Session).workspace.registry = {} ∧ t.workspace.registry.size = 3 ∧
      ∀ p ∈ t.workspace.registry.packages,
        p.isResolved = true ∧ p.isMerged = true ∧ p.isPublished = true := by
  obtain ⟨t, hok, hloop⟩ := scan_loop
  have hsize : t.workspace.registry.size = 3 := by rw [hloop]; rfl
  exact ⟨t, hok, rfl, hsize, finished_of_scan loopHost loopSource loopRoot {} t rfl hok⟩

/-! ### Repair -/

/-- If a package has its manifest on the way of a scan and the scan leaves one of its dependencies
without a target, then neither the package nor any that requires it has a target for that name. -/
theorem unresolved_of_scan (h : Host) (source : ManifestSource) (root : Path) (s t : Session)
    (hs : s.workspace.registry = {}) (hok : outcome (scan h source root) s = (.ok (), t)) :
    ∀ p ∈ t.workspace.registry.packages,
      p.manifest ∈ listedKeys source (Visit.all h s.settings.ignoredNames root) →
      ∀ d ∈ p.dependencies, d.target = none → ¬ t.workspace.registry.Knows p.manifest d.name := by
  intro p hp hlisted d hd hopen hknows
  obtain ⟨r, hscan⟩ := exists_scanned hs hok
  obtain ⟨index, hindex⟩ := List.mem_iff_getElem?.1 hd
  have hdependency : r.dependency? ⟨p.manifest, index⟩ = some d := by
    rw [← hscan.same.dependency?, dependency?_of_find? (hscan.find? hp).1, hindex]
  refine hscan.unknown ⟨p.manifest, index⟩ hlisted d hdependency hopen ?_
  exact hscan.same.repaired.knows_iff.1 hknows

/-- The first package is on the way, and nobody knows its third dependency. -/
theorem unresolved_of_scan_loop :
    ∃ t, outcome (scan loopHost loopSource loopRoot) {} = (.ok (), t) ∧
      ({} : Session).workspace.registry = {} ∧
      "/w/a.lpk" ∈ listedKeys loopSource (Visit.all loopHost [] loopRoot) ∧
      ¬ t.workspace.registry.Knows "/w/a.lpk" "D" := by
  obtain ⟨t, hok, hloop⟩ := scan_loop
  have htext : loopFile.toString = "/w/a.lpk" := by cbv
  have hlisted : "/w/a.lpk" ∈ listedKeys loopSource (Visit.all loopHost [] loopRoot) := by
    rw [visits_loop]
    exact ⟨_, List.mem_cons_self, loopFile, List.mem_cons_self, congrArg Except.ok htext⟩
  have hp : loop.packages[0] ∈ t.workspace.registry.packages := by
    rw [hloop]
    exact List.getElem_mem _
  have hd : ⟨⟨"D", "", false⟩, none⟩ ∈ loop.packages[0].dependencies := by decide
  have hunknown :=
    unresolved_of_scan loopHost loopSource loopRoot {} t rfl hok _ hp hlisted _ hd rfl
  exact ⟨t, hok, rfl, hlisted, hunknown⟩

/-- The second package is not on the way. It keeps a dependency without a target, although the first
one, which requires it, has a target for that name. -/
theorem unresolved_of_scan_outside :
    ∃ t, ({} : Session).workspace.registry = {} ∧
      outcome (scan loopHost loopSource loopRoot) {} = (.ok (), t) ∧
      ¬ ∀ p ∈ t.workspace.registry.packages, ∀ d ∈ p.dependencies, d.target = none →
        ¬ t.workspace.registry.Knows p.manifest d.name := by
  obtain ⟨t, hok, hloop⟩ := scan_loop
  refine ⟨t, rfl, hok, fun hall => ?_⟩
  rw [hloop] at hall
  have hp : loop.packages[1] ∈ loop.packages := List.getElem_mem _
  have hd : ⟨⟨"C", "", false⟩, none⟩ ∈ loop.packages[1].dependencies := by decide
  refine hall _ hp _ hd rfl ⟨"/w/a.lpk", "/c.lpk", .single ?_, 1, _, rfl, sameName_iff.2 rfl, rfl⟩
  decide

/-! ### Search paths -/

/-- After a scan the merged paths of a package contain what each package does that it needs directly
and that does not lead back. So they contain the declared paths of all that can be reached in this
way, and of what those need directly. Of packages that need each other, one at least contains what
any of them does. -/
theorem mergedPaths_of_scan (h : Host) (source : ManifestSource) (root : Path) (s t : Session)
    (hs : s.workspace.registry = {}) (hok : outcome (scan h source root) s = (.ok (), t)) :
    ∀ p ∈ t.workspace.registry.packages,
      (∀ q ∈ t.workspace.registry.packages,
        t.workspace.registry.Leads p.manifest q.manifest → q.mergedPaths ⊆ p.mergedPaths) ∧
      (∀ k ∈ t.workspace.registry.packages, ∀ q ∈ t.workspace.registry.packages,
        Relation.ReflTransGen t.workspace.registry.Leads p.manifest k.manifest →
        (q = k ∨ t.workspace.registry.Needs k.manifest q.manifest) → q.paths ⊆ p.mergedPaths) ∧
      ∃ first ∈ t.workspace.registry.packages,
        t.workspace.registry.Mutual p.manifest first.manifest ∧
        ∀ q ∈ t.workspace.registry.packages, t.workspace.registry.Mutual p.manifest q.manifest →
          q.mergedPaths ⊆ first.mergedPaths := by
  intro p hp
  obtain ⟨r, hscan⟩ := exists_scanned hs hok
  have hr := hscan.explored.unmerged
  obtain ⟨hmerged, hpaths⟩ := hscan.mergedOf hp
  rw [hscan.same.leads_eq, hscan.same.needs_eq, hscan.same.mutual_eq]
  refine ⟨fun q hq hleads => ?_, fun k hk q hq hway hlast => ?_, ?_⟩
  · rw [← hpaths, ← (hscan.mergedOf hq).2]
    exact hscan.fills.mergedOf_subset hr hmerged (.single hleads)
  · rw [← hpaths, ← hscan.pathsOf hq]
    refine hscan.fills.pathsOf_subset hr hmerged hway (hscan.find? hk).2 ?_
    exact hlast.imp_left (congrArg Package.manifest)
  · obtain ⟨key, hmutual, hall⟩ := hscan.fills.exists_first hr hmerged
    have hsome : (t.workspace.registry.find? key).isSome := by
      rw [hscan.same.isSome_find?]
      exact isSome_find?_of_needed hmutual.2 (hscan.find? hp).2
    obtain ⟨first, hfirst⟩ := Option.isSome_iff_exists.1 hsome
    obtain rfl := find?_manifest hfirst
    refine ⟨first, find?_mem hfirst, hmutual, fun q hq hboth => ?_⟩
    rw [← (hscan.mergedOf hq).2, ← mergedOf_of_find? hfirst]
    exact hall q.manifest hboth

/-- The third package does not lead back to the first. The first two need each other. -/
theorem mergedPaths_of_scan_loop :
    ∃ t, outcome (scan loopHost loopSource loopRoot) {} = (.ok (), t) ∧
      ({} : Session).workspace.registry = {} ∧ t.workspace.registry = loop ∧
      loop.packages[2].mergedPaths ⊆ loop.packages[0].mergedPaths ∧
      ∃ first ∈ loop.packages, loop.Mutual "/b.lpk" first.manifest ∧
        loop.packages[1].mergedPaths ⊆ first.mergedPaths := by
  obtain ⟨t, hok, hloop⟩ := scan_loop
  have hpaths := mergedPaths_of_scan loopHost loopSource loopRoot {} t rfl hok
  rw [hloop] at hpaths
  have hfirst : loop.packages[0] ∈ loop.packages := List.getElem_mem _
  have hsecond : loop.packages[1] ∈ loop.packages := List.getElem_mem _
  have hthird : loop.packages[2] ∈ loop.packages := List.getElem_mem _
  have hneeds : loop.Needs "/w/a.lpk" "/c.lpk" := by
    unfold Needs
    decide
  have hback : ¬ loop.Needed "/c.lpk" "/w/a.lpk" := by
    intro hneeded
    obtain heq | ⟨next, hnext, -⟩ := hneeded.cases_head
    · simp at heq
    · exact List.not_mem_nil hnext
  obtain ⟨-, -, first, hmem, hmutual, hall⟩ := hpaths _ hsecond
  exact ⟨t, hok, rfl, hloop, (hpaths _ hfirst).1 _ hthird ⟨hneeds, hback⟩, first, hmem, hmutual,
    hall _ hsecond ⟨.refl, .refl⟩⟩

/-- The second package needs the third by way of the first and lacks its path. -/
theorem mergedPaths_of_scan_incomplete :
    ∃ t, ({} : Session).workspace.registry = {} ∧
      outcome (scan loopHost loopSource loopRoot) {} = (.ok (), t) ∧
      ¬ ∀ p ∈ t.workspace.registry.packages, ∀ q ∈ t.workspace.registry.packages,
        t.workspace.registry.Needed p.manifest q.manifest → q.paths ⊆ p.mergedPaths := by
  obtain ⟨t, hok, hloop⟩ := scan_loop
  refine ⟨t, rfl, hok, fun hall => ?_⟩
  rw [hloop] at hall
  have hp : loop.packages[1] ∈ loop.packages := List.getElem_mem _
  have hq : loop.packages[2] ∈ loop.packages := List.getElem_mem _
  have hfirst : loop.Needs "/b.lpk" "/w/a.lpk" := by
    unfold Needs
    decide
  have hsecond : loop.Needs "/w/a.lpk" "/c.lpk" := by
    unfold Needs
    decide
  have hpaths : loop.packages[2].paths ⊆ loop.packages[1].mergedPaths :=
    hall _ hp _ hq (.head hfirst (.single hsecond))
  revert hpaths
  decide

end Session

end PascalWorkspace
