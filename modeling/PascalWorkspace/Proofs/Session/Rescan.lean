import PascalWorkspace.Proofs.Session.Scan
import PascalWorkspace.Proofs.Walk.Still

/-! A second scan of the same directory. After a first one that ended well nothing is left to do:
the second ends well too, leaves every package as it is and adds the nodes of the directories again.
-/
namespace PascalWorkspace

namespace Session

open Operation Registry

variable {s t : Session} {h : Host} {source : ManifestSource} {root : Path}

/-- The settings are the same. -/
def SameSettings (s t : Session) : Prop := t.settings = s.settings

instance : IsPreorder Session SameSettings where
  refl _ := rfl
  trans _ _ _ hst htu := Eq.trans htu hst

theorem sameSettings_onWorkspace {α : Type} (act : Action α) :
    Keeps SameSettings (onWorkspace act) := by
  intro s
  rw [after, outcome_onWorkspace]
  rfl

/-- A scan does not change the settings that it goes by. -/
theorem settings_scan (h : Host) (source : ManifestSource) (root : Path) :
    Keeps SameSettings (scan h source root) :=
  keeps_bind keeps_get fun _ =>
    keeps_bind (sameSettings_onWorkspace _) fun _ =>
      keeps_bind (fun _ => rfl) fun _ =>
        keeps_bind (sameSettings_onWorkspace _) fun _ =>
          keeps_bind (sameSettings_onWorkspace _) fun _ =>
            keeps_bind keeps_get fun _ => sameSettings_onWorkspace _

/-- What has been merged has been published. -/
theorem isPublished_of_scan (hs : s.workspace.registry = {})
    (hok : outcome (scan h source root) s = (.ok (), t)) {p : Package}
    (hfind : t.workspace.registry.find? p.manifest = some p) (hp : p.isMerged = true) :
    p.isPublished = true := by
  have hextends : Workspace.Extends s.workspace t.workspace :=
    (extends_scan h source root).of_outcome hok
  obtain ⟨keys, hmirror, -⟩ := hextends _ [] (Workspace.mirror_empty hs)
  have hflags := hmirror.merged p.manifest
  rwa [isPublishedAt_of_find? hfind, isMergedAt_of_find? hfind, hp] at hflags

/-- A scan that ends well leaves nothing to do. -/
theorem complete_of_scan (hs : s.workspace.registry = {})
    (hok : outcome (scan h source root) s = (.ok (), t)) :
    Workspace.Complete source (Visit.all h s.settings.ignoredNames root)
      t.workspace.registry := by
  obtain ⟨_, _, v, _, _, hresolve, -⟩ := walks_of_scan hok
  obtain ⟨packages, x, hpackages, -⟩ := outcome_bind_eq_ok hresolve
  have husable := Workspace.usable_of_forPackages hpackages
  obtain ⟨r, hscan⟩ := exists_scanned hs hok
  refine ⟨hscan.same.distinct hscan.explored.sound.distinct,
    fun p hp => (hscan.resolved_and_merged hp).1, fun p hp => (hscan.resolved_and_merged hp).2,
    fun p hp => isPublished_of_scan hs hok (hscan.find? hp).1 (hscan.resolved_and_merged hp).2,
    fun visit hvisit => (husable visit hvisit).1, fun visit hvisit => (husable visit hvisit).2,
    fun visit hvisit m hm key hkey => ?_, fun place hplace => ?_⟩
  · rw [hscan.same.isSome_find?]
    exact hscan.explored.heard visit hvisit m hm key hkey
  · refine hscan.same.settled fun e he hknows hnone => ?_
    exact hscan.unknown place hplace e he hnone hknows

/-- After a scan of a session without packages a second one, of the same files, ends well. It leaves
the packages as they are, with all that has been found out about them and the names that lead to
them, and adds one node for each directory on its way, in the order in which it comes to them. -/
theorem rescan_idempotent (h : Host) (source : ManifestSource) (root : Path) (s t : Session)
    (hs : s.workspace.registry = {}) (hok : outcome (scan h source root) s = (.ok (), t)) :
    ∃ u directories, outcome (scan h source root) t = (.ok (), u) ∧
      u.workspace.registry.packages = t.workspace.registry.packages ∧
      u.workspace.registry.byName = t.workspace.registry.byName ∧
      List.Forall₂ (fun visit directory => h.canonical visit.directory.toString = .ok directory)
        (Visit.all h s.settings.ignoredNames root) directories ∧
      u.workspace.defines.nodes = t.workspace.defines.nodes ++ directories.map directoryNode := by
  let visits := Visit.all h s.settings.ignoredNames root
  let Still := Workspace.Still t.workspace.registry t.workspace.defines
  have hr : Workspace.Complete source visits t.workspace.registry := complete_of_scan hs hok
  have hsettings : t.settings = s.settings := (settings_scan h source root).of_outcome hok
  obtain ⟨_, _, _, w, x, -, -, hpublish, -⟩ := walks_of_scan hok
  obtain ⟨directories, hdirectories⟩ := Workspace.exists_directories hpublish
  have hfirst : Triple Never Still (Workspace.resolveBelow h source s.settings.ignoredNames root)
      fun _ => Still :=
    triple_bind (hr.forPackages fun p hp => hr.resolve hp.1) fun _ => triple_pure fun _ hw => hw
  have hsecond : Triple Never Still (Workspace.repairBelow h source s.settings.ignoredNames root)
      fun _ => Still :=
    triple_bind (hr.forPackages fun p hp => hr.repair hp.2) fun _ => triple_pure fun _ hw => hw
  obtain ⟨found, v', hrun, hv'⟩ := hfirst.exists_ok ⟨rfl, rfl, rfl⟩
  obtain ⟨repaired, w', hrun', hw'⟩ := hsecond.exists_ok hv'
  obtain ⟨_, x', hrun'', hx'⟩ :=
    (hr.publishVisits (fun _ hvisit => hvisit) hdirectories).exists_ok hw'
  rw [← hsettings] at hrun hrun'
  have hlast : outcome (Workspace.publishBelow h source t.settings.ignoredNames root) w' =
      (.ok (), x') := by
    rw [hsettings]
    exact hrun''
  obtain ⟨u, hu, hregistry, hdefines⟩ := scan_of_walks t hrun hrun' hlast
  refine ⟨u, directories, hu, ?_, ?_, hdirectories, ?_⟩
  · rw [hregistry, hx'.packages]
  · rw [hregistry, hx'.byName]
  · rw [hdefines, hx'.defines]

/-- The second scan leaves the package that could not be repaired as it is, and the directory has
two nodes of its own then. -/
theorem rescan_idempotent_loop :
    ({} : Session).workspace.registry = {} ∧
    ∃ t u, outcome (scan loopHost loopSource loopRoot) {} = (.ok (), t) ∧
      outcome (scan loopHost loopSource loopRoot) t = (.ok (), u) ∧
      u.workspace.registry.packages = loop.packages ∧
      u.workspace.registry.byName = loop.byName ∧
      u.workspace.defines.nodes = t.workspace.defines.nodes ++ [directoryNode "/w"] := by
  obtain ⟨t, hok, hloop⟩ := scan_loop
  obtain ⟨u, directories, hu, hpackages, hnames, hdirectories, hnodes⟩ :=
    rescan_idempotent loopHost loopSource loopRoot {} t rfl hok
  have hcanonical : loopHost.canonical loopRoot.toString = .ok "/w" := by cbv
  have hway : Visit.all loopHost ({} : Session).settings.ignoredNames loopRoot =
      [⟨loopRoot, .ok [loopFile]⟩] := visits_loop
  rw [hloop] at hpackages hnames
  rw [hway] at hdirectories
  obtain ⟨directory, rest, hdirectory, hrest, rfl⟩ := List.forall₂_cons_left_iff.1 hdirectories
  obtain rfl := List.forall₂_nil_left_iff.1 hrest
  obtain rfl : "/w" = directory := Except.ok.inj (hcanonical.symm.trans hdirectory)
  exact ⟨rfl, t, u, hok, hu, hpackages, hnames, hnodes⟩

end Session

end PascalWorkspace
