import Mathlib
import PascalWorkspace.Proofs.Session.Calls
import PascalWorkspace.Proofs.Walk.Publish

/-! The search paths that a scan leaves are those of the dependencies that it leaves, however the
walk came upon the packages. -/
namespace PascalWorkspace

namespace Session

open Operation Registry

variable {s t : Session} {h : Host} {source : ManifestSource} {root : Path}

/-- After a scan that ends well every package has been merged, and to the paths that the final
dependencies give. -/
theorem flat_of_scan (hs : s.workspace.registry = {})
    (hok : outcome (scan h source root) s = (.ok (), t)) (hr : t.workspace.registry.Acyclic)
    {p : Package} (hp : p ∈ t.workspace.registry.packages) :
    p.isMerged = true ∧ p.mergedPaths = t.workspace.registry.flat hr p.manifest := by
  obtain ⟨found, repaired, v, w, x, hresolve, hrepair, hpublish, ht, -⟩ := walks_of_scan hok
  have hfirst := Workspace.explored_of_resolveBelow hs hresolve
  obtain ⟨hexplored, -, -⟩ := Workspace.mended_of_repairBelow hfirst hrepair
  obtain ⟨hsame, hflat⟩ := Workspace.flatAt_of_publishBelow hexplored hpublish
  rw [← ht] at hsame hflat
  have hacyclic := hsame.symm.acyclic hr
  have hfind := find?_of_mem (hsame.distinct hexplored.sound.distinct) hp
  have hknown : (w.registry.find? p.manifest).isSome := by rw [← hsame.isSome_find?, hfind]; rfl
  have hstate := hflat hacyclic p.manifest hknown _ (mergeState_of_find? hfind)
  obtain ⟨hmerged, hpaths⟩ := Prod.mk.inj hstate
  exact ⟨hmerged, by rw [hpaths, hsame.flat hacyclic hr]⟩

/-- Merging packages in any order, from a state in which none has been merged. -/
theorem flat_of_merges {w : Workspace} (hr : w.registry.Acyclic) (hw : w.registry.Unmerged)
    (keys : List String) :
    ∃ v, outcome (keys.forM Workspace.mergePaths) w = (.ok (), v) ∧
      (∀ key ∈ keys, (w.registry.find? key).isSome → v.registry.isMergedAt key = true) ∧
      ∀ key p, v.registry.find? key = some p → p.isMerged = true →
        p.mergedPaths = w.registry.flat hr key := by
  have hrun := Workspace.outcome_forM_mergePaths id keys w
  rw [List.map_id] at hrun
  refine ⟨_, hrun, fun key hkey hsome => isMergedAt_foldl hkey hsome, fun key p hp hmerged => ?_⟩
  exact (finishes_foldl lasting_orderly (orderly_of_unmerged hw)).1.mergedPaths hr hp hmerged

/-- Where no package needs itself, a package that has been merged has its own paths followed by
those of each dependency in turn, whatever was merged first. After a scan with nothing known before,
that holds of every package and the dependencies then found or borrowed. -/
theorem mergedPaths_eq_flat :
    (∀ (w : Workspace) (hr : w.registry.Acyclic), w.registry.Unmerged → ∀ keys : List String,
      ∃ v, outcome (keys.forM Workspace.mergePaths) w = (.ok (), v) ∧
        (∀ key ∈ keys, (w.registry.find? key).isSome → v.registry.isMergedAt key = true) ∧
        ∀ key p, v.registry.find? key = some p → p.isMerged = true →
          p.mergedPaths = w.registry.flat hr key) ∧
    ∀ (h : Host) (source : ManifestSource) (root : Path) (s t : Session),
      s.workspace.registry = {} → outcome (scan h source root) s = (.ok (), t) →
        ∀ hr : t.workspace.registry.Acyclic, ∀ p ∈ t.workspace.registry.packages,
          p.isMerged = true ∧ p.mergedPaths = t.workspace.registry.flat hr p.manifest :=
  ⟨fun _ hr hw keys => flat_of_merges hr hw keys,
    fun _ _ _ _ _ hs hok hr _ hp => flat_of_scan hs hok hr hp⟩

/-- The first of three manifests needs the other two, and the second needs the third. -/
def diamond : Registry where
  packages := [
    { manifest := "/c.lpk", name := "c", directory := "/", paths := ⟨["c"], [], []⟩,
      dependencies := [⟨⟨"b", "", false⟩, some "/b.lpk"⟩, ⟨⟨"a", "", false⟩, some "/a.lpk"⟩] },
    { manifest := "/b.lpk", name := "b", directory := "/", paths := ⟨["b"], [], []⟩,
      dependencies := [⟨⟨"a", "", false⟩, some "/a.lpk"⟩] },
    { manifest := "/a.lpk", name := "a", directory := "/", paths := ⟨["a"], [], []⟩,
      dependencies := [] }]

def diamondRank (key : String) : Nat :=
  if key = "/c.lpk" then 2 else if key = "/b.lpk" then 1 else 0

def fallsInRank (r : Registry) : Bool :=
  r.packages.all fun p => p.targets.all fun target => diamondRank target < diamondRank p.manifest

theorem acyclic_of_fallsInRank {r : Registry} (h : fallsInRank r = true) : r.Acyclic := by
  refine acyclic_of_rank diamondRank fun p hp target htarget => ?_
  have hall := List.all_eq_true.1 (List.all_eq_true.1 h p hp) target htarget
  exact of_decide_eq_true hall

/-- A machine on which a walk comes upon the first of the three manifests alone. -/
def diamondHost : Host where
  tree := ⟨[(["c.lpk"], .file [])]⟩
  cwd := []
  environment := []
  homes := []

/-- The three manifests as they are written. The first needs the third a second time, under a name
by which it cannot be found. -/
def diamondSource : ManifestSource where
  canonical := .ok
  read := (ManifestSource.ofTable diamondHost [
    ("/c.lpk", ⟨"c", "/", ⟨["c"], [], []⟩,
      [⟨"b", "/b.lpk", false⟩, ⟨"a", "/a.lpk", false⟩, ⟨"A", "", false⟩]⟩),
    ("/b.lpk", ⟨"b", "/", ⟨["b"], [], []⟩, [⟨"a", "/a.lpk", false⟩]⟩),
    ("/a.lpk", ⟨"base", "/", ⟨["a"], [], []⟩, []⟩)]).read
  capacity := 3

theorem scan_diamond :
    (match outcome (scan diamondHost diamondSource ⟨.root, []⟩) {} with
    | (.ok (), t) => fallsInRank t.workspace.registry
    | _ => false) = true := by
  -- Runs are evaluated by the equations that the whole library has for texts and states.
  cbv

/-- The third manifest contributes twice to the first. -/
theorem mergedPaths_eq_flat_diamond :
    (∃ hr : diamond.Acyclic, diamond.Unmerged ∧
      (diamond.flat hr "/c.lpk").units = ["c", "b", "a", "a"]) ∧
    ∃ t, outcome (scan diamondHost diamondSource ⟨.root, []⟩) {} = (.ok (), t) ∧
      ∃ hr : t.workspace.registry.Acyclic, ∀ p ∈ t.workspace.registry.packages,
        p.isMerged = true ∧ p.mergedPaths = t.workspace.registry.flat hr p.manifest := by
  constructor
  · have hr : diamond.Acyclic := acyclic_of_fallsInRank (by decide)
    have hunmerged : diamond.Unmerged := by
      unfold Unmerged
      decide
    obtain ⟨v, hv, -, hflat⟩ :=
      mergedPaths_eq_flat.1 { registry := diamond } hr hunmerged ["/b.lpk", "/c.lpk"]
    have hpaths : (outcome (["/b.lpk", "/c.lpk"].forM Workspace.mergePaths)
        { registry := diamond }).2.registry.find? "/c.lpk" = some { diamond.packages[0] with
          mergedPaths := ⟨["c", "b", "a", "a"], [], []⟩, isMerged := true } := by cbv
    rw [hv] at hpaths
    exact ⟨hr, hunmerged, by rw [← hflat _ _ hpaths rfl]⟩
  · have hscan := scan_diamond
    rcases h : outcome (scan diamondHost diamondSource ⟨.root, []⟩) {} with ⟨_ | ⟨⟩, t⟩
    · simp [h] at hscan
    · rw [h] at hscan
      have hr := acyclic_of_fallsInRank hscan
      exact ⟨t, rfl, hr, mergedPaths_eq_flat.2 _ _ _ _ t rfl h hr⟩

end Session

end PascalWorkspace
