import PascalWorkspace.Proofs.Session.Rejection
import PascalWorkspace.Proofs.Walk.Located

/-! How an accepted request ends in a workspace without manifests. Whatever the configuration files
hold, it is served, or it ends with one of a few errors that are not made up for. -/
namespace PascalWorkspace

open Operation FileTree Host

variable {expected : Failure → Prop} {h : Host} {source : ManifestSource} {ignored : List String}
  {root directory : Path} {given text : String} {visits : List Visit} {visit : Visit}

/-! ### The walk -/

namespace Visit

/-- A walk from a directory in its canonical spelling can go on wherever it comes to. Every
directory that it comes to has a canonical spelling, unless it is the one that it began at. -/
theorem passable_of_canonical (hh : h.Regular) (ht : h.tree.WellFormed)
    (hgiven : h.canonical given = .ok text)
    (hvisit : visit ∈ Visit.all h ignored (Path.ofString text)) : visit.Passable ∧
      ((∃ key, h.canonical visit.directory.toString = .ok key) ∨
        visit.directory = Path.ofString text) := by
  obtain ⟨root, hspelled, rfl⟩ := exists_spelled_of_canonical hh hgiven
  rw [hspelled.ofString_toString] at hvisit ⊢
  cases hloc : h.locate root with
  | ok loc =>
    have hreached : h.Reached root.anchor root :=
      ⟨rfl, fun part hpart => (hspelled.names part hpart).toIsPart, loc, hloc⟩
    have hlocated := located_of_mem_below ht hreached hvisit
    have hdirectory := hlocated.shown visit.directory (.inl rfl)
    obtain ⟨place, hplace⟩ := hdirectory.leads
    have htilde : ¬ visit.directory.BeginsWithTilde := fun htilde =>
      hspelled.absolute (hdirectory.anchored.symm.trans htilde.1)
    exact ⟨hlocated.passable,
      .inl (exists_canonical_of_locate hh hdirectory.parts htilde hplace)⟩
  | error e =>
    -- The directory that the walk begins at is not there, and so the walk ends in it.
    have hlisting : listing h root = .error e := by
      simp only [listing, manifestsIn, childrenWhere, Host.childNames, hloc, bind, Except.bind]
    rw [all, below, hlisting] at hvisit
    split at hvisit
    · cases hvisit
    · obtain rfl := List.mem_singleton.1 hvisit
      refine ⟨fun fault hfault => ?_, .inr rfl⟩
      obtain rfl := Except.error.inj hfault
      exact (locate_eq_error hloc).resolve_left fun hholds => by
        simp [holdsNul_of_spelled hspelled] at hholds

end Visit

namespace Workspace

/-- Where no manifest is listed there is nothing to be done. -/
theorem failsAs_forPackages_none {act : Package → Action Unit}
    (hpassable : ∀ visit ∈ visits, visit.Passable) (hnone : ∀ visit ∈ visits, visit.listed = []) :
    FailsAs expected (forPackages source act visits) := by
  refine triple_forPackages (Q := fun _ => False) (fun _ _ _ => trivial) hpassable
    (fun visit hvisit m hm => ?_) fun _ hfalse => hfalse.elim
  rw [hnone visit hvisit] at hm
  cases hm

theorem failsAs_publishVisit_none (hpassable : visit.Passable) (hnone : visit.listed = [])
    (hdirectory : ∀ e, h.canonical visit.directory.toString = .error e → expected (.badPath e)) :
    FailsAs expected (publishVisit h source visit) := by
  refine triple_bind (failsAs_report _ _ _) fun _ => ?_
  refine triple_ofPathResult_bind (fun directory _ => ?_) hdirectory
  have hnode : FailsAs expected (addNode (directoryNode directory)) := failsAs_modify _
  refine triple_bind hnode fun _ => ?_
  refine triple_bind (triple_listedManifests (fun _ _ _ => trivial) hpassable) fun manifests =>
    triple_of_fact fun hmanifests => ?_
  obtain rfl : manifests = [] := hmanifests.trans hnone
  exact failsAs_of_ok fun w => ⟨(), w, rfl⟩

end Workspace

namespace Session

/-- A scan that comes upon no manifest fails only where a directory has no canonical spelling. -/
theorem failsAs_scan_none
    (hvisits : ∀ ignored, ∀ visit ∈ Visit.all h ignored root, visit.Passable ∧ visit.listed = [] ∧
      ∀ e, h.canonical visit.directory.toString = .error e → expected (.badPath e)) :
    FailsAs expected (scan h source root) := by
  refine triple_get_bind fun s _ => ?_
  have hwalk (act : Package → Action Unit) : FailsAs expected (Workspace.forPackages source act
      (Visit.all h s.settings.ignoredNames root)) :=
    Workspace.failsAs_forPackages_none (fun visit hvisit => (hvisits _ visit hvisit).1)
      fun visit hvisit => (hvisits _ visit hvisit).2.1
  have hcount (act : Package → Action Unit) : FailsAs expected (do
      let packages ← Workspace.forPackages source act (Visit.all h s.settings.ignoredNames root)
      return packages.length : Action Nat) :=
    triple_bind (hwalk act) fun _ => failsAs_pure _
  have hpublish : FailsAs expected
      (Workspace.publishBelow h source s.settings.ignoredNames root) :=
    triple_forM fun visit hvisit => Workspace.failsAs_publishVisit_none
      (hvisits _ visit hvisit).1 (hvisits _ visit hvisit).2.1 (hvisits _ visit hvisit).2.2
  refine triple_bind (triple_onWorkspace (hcount _)) fun found => ?_
  refine triple_bind (failsAs_modify _) fun _ => ?_
  refine triple_bind (triple_onWorkspace (hcount _)) fun _ => ?_
  refine triple_bind (triple_onWorkspace hpublish) fun _ => ?_
  exact triple_get_bind fun _ _ => failsAs_report _ _ _

end Session

open Session

namespace Handshake

variable {surroundings : Surroundings} {settings : WorkspaceSettings}

/-- A request names a directory that can be resolved to the root of the workspace. -/
inductive Names (h : Host) (members : Json.Members) : Path → Prop where
  | resolved {uri : Text.Wide} {text : String} {path : Path}
    (huri : Json.Value.member members "rootUri" = .text uri) (hpath : Uri.toPath uri = .ok path)
    (htext : h.canonical path.toString = .ok text) : Names h members (Path.ofString text)

theorem rootPath_eq_ok {value : Json.Value} {path : Path} (hok : rootPath value = .ok path) :
    ∃ uri, value = .text uri ∧ Uri.toPath uri = .ok path := by
  cases value with
  | text uri =>
    rw [rootPath] at hok
    split at hok
    · cases hok
    · cases hpath : Uri.toPath uri with
      | ok found =>
        rw [hpath] at hok
        exact ⟨uri, rfl, hpath.trans (congrArg _ (Except.ok.inj hok))⟩
      | error e =>
        rw [hpath] at hok
        cases hok
  | _ => cases hok

/-- Where a request is accepted, its root is the one that it names. -/
theorem names_of_accept {members : Json.Members} {h : Host} {root : Path}
    {s t : Session} (hrun : outcome (accept h members) s = (.ok root, t)) :
    Names h members root := by
  obtain ⟨_, u, -, hlocate⟩ := outcome_bind_eq_ok hrun
  unfold locateRoot at hlocate
  split at hlocate
  · cases hlocate
  · next path hok =>
    obtain ⟨uri, huri, hpath⟩ := rootPath_eq_ok hok
    split at hlocate
    · cases hlocate
    · next text htext =>
      obtain rfl := Except.ok.inj (congrArg Prod.fst hlocate)
      exact .resolved huri hpath htext

/-- What is searched for the configuration of the development environment: a directory, or a text
that turns out to name none. -/
def Searched (surroundings : Surroundings) (root : Path)
    (candidate : IdeConfiguration.Candidate) : Prop :=
  ∃ settings candidates,
    (∀ u, (outcome (WorkspaceSettings.load surroundings.host root) u).1 = .ok settings) ∧
      InForce surroundings settings candidates ∧ candidate ∈ candidates

/-- A configuration file of a workspace holds a scalar that has no value, or collections in one
another to which there is no end in the room that there is. -/
inductive Impossible (room : Nat) (bytes : List UInt8) (fault : Yaml.Fault) : Prop where
  | loading (h : WorkspaceSettings.ofBytes room bytes = .impossible fault)
  | setting {l : Yaml.Loaded} (h : WorkspaceSettings.ofBytes room bytes = .settings l)
      (hl : WorkspaceSettings.ofLoaded room l = .error fault)

/-- What ends an accepted request before it is served, with the failure that it ends with. -/
inductive Breakdown (surroundings : Surroundings) (root : Path) : Failure → Prop where
  /-- The operating system does not tell whether there is a configuration file. -/
  | unasked {e : PathError}
      (he : surroundings.host.isFileAt (WorkspaceSettings.fileIn root) = .error e) :
      Breakdown surroundings root (.badPath e)
  /-- Reading the configuration file breaks off. -/
  | broken {bytes : List UInt8} {fault : Yaml.Fault}
      (hbytes : surroundings.host.readFile (WorkspaceSettings.fileIn root) = .ok bytes)
      (hfault : Impossible surroundings.host.callDepth bytes fault) :
      Breakdown surroundings root (.brokenSettings fault)
  /-- A directory that the configuration file names has no home directory to begin at. -/
  | unexpanded {settings : WorkspaceSettings} {texts : List Text.Wide} {text : Text.Wide}
      {e : PathError}
      (hsettings : ∀ u,
        (outcome (WorkspaceSettings.load surroundings.host root) u).1 = .ok settings)
      (hset : settings.ideDirectories = some texts) (htext : text ∈ texts)
      (he : IdeConfiguration.candidateNamed surroundings.host text = .error e) :
      Breakdown surroundings root (.badPath e)
  /-- The usual places have no home directory to begin at. -/
  | homeless {e : PathError} (hgiven : surroundings.ideDirectories = none)
      (he : surroundings.host.home = .error e) : Breakdown surroundings root (.badPath e)
  /-- A text is searched of which the bytes of a name cannot be made. -/
  | unnamed {e : PathError} (hsearched : Searched surroundings root (.error e)) :
      Breakdown surroundings root (.badPath e)
  /-- A name that no file can have is searched. -/
  | nul {directory : Path} {file : String}
      (hsearched : Searched surroundings root (.ok directory))
      (hfile : file ∈ [IdeConfiguration.optionsFile, IdeConfiguration.definesFile])
      (hnul : holdsNul (directory.child file) = true) :
      Breakdown surroundings root (.badPath .holdsNul)
  /-- A configuration file of the development environment is in an encoding that is not known. -/
  | encoding {directory : Path} {file : String} {bytes : List UInt8} {failure : Failure}
      (hsearched : Searched surroundings root (.ok directory))
      (hfile : file ∈ [IdeConfiguration.optionsFile, IdeConfiguration.definesFile])
      (hbytes : surroundings.host.readFile (directory.child file) = .ok bytes)
      (hfailure : readDocument surroundings.host (directory.child file) = .error failure) :
      Breakdown surroundings root failure
  /-- The root leads back to itself when it is resolved again. -/
  | unresolvable {e : PathError} (he : surroundings.host.canonical root.toString = .error e) :
      Breakdown surroundings root (.badPath e)

section Breakdown

variable {candidates : List IdeConfiguration.Candidate}

theorem breaks_acceptSettings {bytes : List UInt8}
    (hbytes : surroundings.host.readFile (WorkspaceSettings.fileIn root) = .ok bytes) :
    FailsAs (Breakdown surroundings root) (WorkspaceSettings.accept surroundings.host.callDepth
      (WorkspaceSettings.fileIn root) bytes) := by
  unfold WorkspaceSettings.accept
  split
  · exact failsAs_reportUnreadable _
  · exact triple_bind (failsAs_report _ _ _) fun _ => failsAs_pure _
  · exact failsAs_pure _
  · next hfound => exact triple_throw (.broken hbytes (.loading hfound))
  · next l hfound =>
    split
    · exact failsAs_pure _
    · next hl => exact triple_throw (.broken hbytes (.setting hfound hl))

theorem breaks_load : FailsAs (Breakdown surroundings root)
    (WorkspaceSettings.load surroundings.host root) := by
  refine triple_ofPathResult_bind (fun isFile hisFile => ?_) fun e he => .unasked he
  split
  · exact failsAs_pure _
  · next hfile =>
    have hyes := isFile_of_isFileAt (hisFile.trans (by simpa using hfile))
    obtain ⟨bytes, hbytes⟩ | hdenied := readFile_of_isFile hyes
    · rw [hbytes]
      exact breaks_acceptSettings hbytes
    · rw [hdenied]
      exact failsAs_reportUnreadable _

theorem breaks_ideDirectories (hsettings :
      ∀ u, (outcome (WorkspaceSettings.load surroundings.host root) u).1 = .ok settings) :
    FailsAs (Breakdown surroundings root) (ideDirectories surroundings settings) := by
  unfold ideDirectories
  split
  · exact failsAs_pure _
  · next texts _ hset =>
    exact failsAs_mapM fun text htext => failsAs_ofPathResult fun e he =>
      .unexpanded hsettings hset htext he
  · next hgiven _ =>
    exact triple_bind (triple_ofPathResult_bind (fun _ _ => failsAs_pure _) fun e he =>
      .homeless hgiven he) fun _ => failsAs_pure _

/-- A document cannot be read for a name that no file can have, or for its encoding. -/
theorem readDocument_eq_error {path : Path} {failure : Failure}
    (hread : readDocument h path = .error failure) :
    holdsNul path = true ∧ failure = .badPath .holdsNul ∨
      ∃ bytes, h.readFile path = .ok bytes := by
  cases hfile : h.readFile path with
  | ok bytes => exact .inr ⟨bytes, rfl⟩
  | error e =>
    left
    unfold readDocument at hread
    rw [hfile] at hread
    cases hnul : holdsNul path with
    | false =>
      obtain ⟨reason, place, rfl⟩ := isRefusal_of_readFile hnul hfile
      cases hread
    | true =>
      simp only [Host.readFile, Host.entry?, Host.locate, hnul, if_true] at hfile
      obtain rfl := Except.error.inj hfile
      exact ⟨rfl, (Except.error.inj hread).symm⟩

theorem breaks_loadDocument {file : String}
    (hsearched : Searched surroundings root (.ok directory))
    (hfile : file ∈ [IdeConfiguration.optionsFile, IdeConfiguration.definesFile]) :
    FailsAs (Breakdown surroundings root)
      (IdeConfiguration.load surroundings.host (directory.child file)) := by
  unfold IdeConfiguration.load
  split
  · next failure hread =>
    refine triple_throw ?_
    obtain ⟨hnul, rfl⟩ | ⟨bytes, hbytes⟩ := readDocument_eq_error hread
    · exact .nul hsearched hfile hnul
    · exact .encoding hsearched hfile hbytes hread
  · exact triple_bind (failsAs_report _ _ _) fun _ => failsAs_pure _
  · split
    · exact failsAs_pure _
    · exact triple_bind (failsAs_report _ _ _) fun _ => failsAs_pure _

theorem breaks_fill
    (hsearched : ∀ candidate ∈ candidates, Searched surroundings root candidate) :
    FailsAs (Breakdown surroundings root)
      (IdeConfiguration.fill surroundings.host candidates) := by
  induction candidates with
  | nil => exact failsAs_pure _
  | cons candidate rest ih =>
    obtain ⟨hhere, hrest⟩ := List.forall_mem_cons.1 hsearched
    refine triple_ofPathResult_bind (fun directory hdirectory => ?_) fun e he =>
      .unnamed (he ▸ hhere)
    subst hdirectory
    refine triple_bind (triple_bind (breaks_loadDocument hhere (by simp)) fun _ =>
      failsAs_pure _) fun _ => triple_bind (failsAs_takeValues _ _) fun _ => ?_
    refine triple_bind (triple_bind (breaks_loadDocument hhere (by simp)) fun _ =>
      failsAs_pure _) fun _ => triple_bind (failsAs_takeValues _ _) fun _ => ?_
    exact triple_bind (ih hrest) fun _ => failsAs_pure _

end Breakdown

theorem triple_prepareToolchain (hsettings :
      ∀ u, (outcome (WorkspaceSettings.load surroundings.host root) u).1 = .ok settings) :
    Triple (Breakdown surroundings root) (fun session => session.settings = settings)
      (prepareToolchain surroundings root) fun _ _ => True := by
  refine triple_get_bind fun session hset => ?_
  obtain rfl := hset
  suffices hrest : FailsAs (Breakdown surroundings root) _ from fun t _ => hrest t trivial
  refine triple_bind ((breaks_ideDirectories hsettings).with_result fun s candidates t hrun =>
    (outcome_ideDirectories hrun).1) fun candidates => triple_of_fact fun hforce => ?_
  refine triple_bind (breaks_fill fun candidate hmem => ⟨_, _, hsettings, hforce, hmem⟩)
    fun _ => triple_bind failsAs_reportMissing fun _ => failsAs_modify _

/-- An accepted request is served if nothing breaks it down. -/
theorem triple_serveAccepted (hh : surroundings.host.Regular)
    (ht : surroundings.host.tree.WellFormed) (hgiven : surroundings.host.canonical given = .ok text)
    (hnone : ∀ ignored, ∀ visit ∈ Visit.all surroundings.host ignored (Path.ofString text),
      visit.listed = []) :
    Triple (Breakdown surroundings (Path.ofString text)) (fun _ => True)
      (serveAccepted surroundings (Path.ofString text)) fun result _ => result = capabilities := by
  have hscan : FailsAs (Breakdown surroundings (Path.ofString text))
      (scan surroundings.host surroundings.source (Path.ofString text)) := by
    refine failsAs_scan_none fun ignored visit hvisit => ?_
    obtain ⟨hpassable, hdirectory⟩ := Visit.passable_of_canonical hh ht hgiven hvisit
    refine ⟨hpassable, hnone ignored visit hvisit, fun e he => ?_⟩
    obtain ⟨key, hkey⟩ | hroot := hdirectory
    · rw [hkey] at he
      cases he
    · exact .unresolvable (hroot ▸ he)
  refine triple_bind (failsAs_modify _) fun _ => ?_
  refine triple_bind (breaks_load.with_result fun s settings t hrun =>
    ((WorkspaceSettings.reads_load _ _).of_outcome hrun).1) fun settings =>
      triple_of_fact fun hsettings => ?_
  refine triple_bind (triple_modify (I := fun session => session.settings = settings)
    fun _ _ => rfl) fun _ => ?_
  refine triple_bind (triple_prepareToolchain hsettings) fun _ => ?_
  refine triple_bind (failsAs_startEngine _) fun _ => triple_bind (failsAs_modify _) fun _ => ?_
  exact triple_bind hscan fun _ => triple_pure fun _ _ => rfl

/-! ### A machine with and without its only file -/

section Content

variable (content : List UInt8)

theorem regular_desk : (deskHost content).Regular where
  cwd := .root
  targets link target hlink := by
    have hmem := mem_entries (ne_root_of_link hlink) hlink
    simp [deskHost] at hmem

theorem wellFormed_desk : (deskHost content).tree.WellFormed where
  distinct := by simp [deskHost]
  names := by
    have hnames : ∀ place ∈ [["w"], ["c"], ["c", "fpcdefines.xml"]], ∀ name ∈ place,
        IsFileName name := by decide
    intro e he
    exact hnames e.1 (by simp [deskHost] at he; grind)

/-- Whatever names are left out, no walk from the root finds a manifest. -/
theorem listed_desk {ignored : List String} {visit : Visit}
    (hvisit : visit ∈ Visit.all (deskHost content) ignored deskRoot) : visit.listed = [] := by
  rw [Visit.all, Visit.below, listing_desk] at hvisit
  split at hvisit
  · cases hvisit
  · obtain rfl := List.mem_singleton.1 hvisit
    rfl

end Content

/-- A machine with nothing but directories. -/
def clearHost : Host := { deskHost [] with tree := ⟨[(["w"], .directory), (["c"], .directory)]⟩ }

theorem regular_clear : clearHost.Regular where
  cwd := .root
  targets link target hlink := by
    have hmem := mem_entries (ne_root_of_link hlink) hlink
    simp [clearHost] at hmem

theorem wellFormed_clear : clearHost.tree.WellFormed where
  distinct := by simp [clearHost]
  names := by decide

theorem canonical_clear : clearHost.canonical deskRoot.toString = .ok "/w" := by
  have hclean : Clean clearHost.tree ["w"] := .child .root (by decide) nofun
  exact Host.canonical_pathOf hclean

end Handshake

end PascalWorkspace
