import PascalWorkspace.Proofs.Host.Added
import PascalWorkspace.Proofs.Session.Accepted
import PascalWorkspace.Proofs.Session.InStep
import PascalWorkspace.Proofs.Walk.Unlisted

/-! Configuration files that cannot be used. Where nothing breaks a request down, such a file has
the same effect as none. -/
namespace PascalWorkspace

open Operation FileTree Host

/-- The file of a workspace is no readable mapping, or is empty. -/
def WorkspaceSettings.Unusable (room : Nat) (bytes : List UInt8) : Prop :=
  ofBytes room bytes = .unreadable ∨ ofBytes room bytes = .notMapping ∨
    ofBytes room bytes = .nothing

/-- A file of the development environment is no document that configures it. -/
def IdeConfiguration.Unusable (bytes : List UInt8) : Prop :=
  Xml.parse bytes = .error .notWellFormed ∨
    ∃ root, Xml.parse bytes = .ok root ∧ root.tag ≠ "CONFIG"

namespace Session

open Workspace

variable {excused : Failure → Prop} {a b : ManifestSource} {h h' : Host} {extra : Path → Prop}
  {s t : Session}

theorem beside_report (level level' : Level) (reporter reporter' : Reporter)
    (text text' : String) : InStep excused (Beside SameButLog) Any (report level reporter text)
      (report level' reporter' text') :=
  beside_onWorkspace (inStep_report _ _ _ _ _ _)

/-- A report is all that is left of it. -/
theorem beside_pure_report {α : Type} (a : α) (level : Level) (reporter : Reporter)
    (text : String) : InStep excused (Beside SameButLog) Eq (pure a)
      (do
        report level reporter text
        return a) := by
  rintro s _ ⟨_, rfl, log, rfl⟩
  exact .ok ⟨_, rfl, _, rfl⟩ rfl

/-- A scan that comes upon no manifest does not depend on the source of manifests. -/
theorem beside_scan {root : Path} (hcanonical : ∀ text, h.canonical text = h'.canonical text)
    (hvisits : ∀ ignored,
      List.Forall₂ (Visit.Alike extra) (Visit.all h ignored root) (Visit.all h' ignored root))
    (hnone : ∀ ignored, ∀ v ∈ Visit.all h' ignored root, v.listed = []) :
    InStep excused (Beside SameButLog) Any (scan h a root) (scan h' b root) := by
  refine inStep_get_bind fun s t hst => ?_
  rw [hst.settings]
  have hcount (act act' : Package → Action Unit) :
      InStep excused SameButLog Eq
        (do
          let packages ← forPackages a act (Visit.all h s.settings.ignoredNames root)
          return packages.length)
        (do
          let packages ← forPackages b act' (Visit.all h' s.settings.ignoredNames root)
          return packages.length) := by
    refine inStep_bind (inStep_forPackages (hvisits _) (hnone _)) fun _ _ hpackages => ?_
    obtain ⟨rfl, rfl⟩ := hpackages
    exact inStep_pure rfl
  have hpublish : InStep excused SameButLog Any
      (publishBelow h a s.settings.ignoredNames root)
      (publishBelow h' b s.settings.ignoredNames root) := by
    have hmembers := (List.forall₂_and_left _ _).2 ⟨hnone s.settings.ignoredNames, (hvisits _).flip⟩
    exact inStep_forM hmembers.flip fun v v' hv => inStep_publishVisit hcanonical hv.2 hv.1
  refine inStep_bind (beside_onWorkspace (hcount _ _)) (fun found _ hsame => ?_) s t hst
  subst hsame
  refine inStep_bind (beside_modify (fun _ _ => rfl) fun _ => rfl) fun _ _ _ => ?_
  refine inStep_bind (beside_onWorkspace (hcount _ _)) fun _ _ _ => ?_
  refine inStep_bind (beside_onWorkspace hpublish) fun _ _ _ => ?_
  exact inStep_get_bind fun s t hst => beside_report _ _ _ _ _ _ s t hst

theorem beside_startEngine (env : Environment) :
    InStep excused (Beside SameButLog) Any (startEngine env) (startEngine env) := by
  refine inStep_get_bind fun s t hst => ?_
  rw [hst.toolchain]
  refine (show InStep excused (Beside SameButLog) Any _ _ from ?_) s t hst
  refine inStep_bind (beside_modify (fun _ _ => rfl) fun _ => rfl) fun _ _ _ => ?_
  exact beside_report _ _ _ _ _ _

end Session

open Session Workspace

variable {excused : Failure → Prop} {h h' : Host} {directory : Location} {name : String}
  {content : List UInt8}

namespace WorkspaceSettings

variable {root : Path}

theorem load_congr (hdepth : h.callDepth = h'.callDepth)
    (hfile : h.isFileAt (fileIn root) = h'.isFileAt (fileIn root))
    (hread : h.isFileAt (fileIn root) = .ok true →
      h.readFile (fileIn root) = h'.readFile (fileIn root)) : load h root = load h' root := by
  unfold load
  dsimp only
  rw [← hfile, hdepth]
  cases hyes : h.isFileAt (fileIn root) with
  | error e => rfl
  | ok yes =>
    cases yes with
    | false => rfl
    | true => rw [hread hyes]

theorem beside_reportUnreadable (path : Path) :
    InStep excused (Beside SameButLog) Eq (reportUnreadable path) (reportUnreadable path) :=
  inStep_bind (beside_report _ _ _ _ _ _) fun _ _ _ => inStep_pure rfl

theorem beside_accept (room : Nat) (path : Path) (bytes : List UInt8) :
    InStep excused (Beside SameButLog) Eq (accept room path bytes) (accept room path bytes) := by
  unfold accept
  cases ofBytes room bytes with
  | unreadable => exact beside_reportUnreadable path
  | notMapping => exact inStep_bind (beside_report _ _ _ _ _ _) fun _ _ _ => inStep_pure rfl
  | nothing => exact inStep_pure rfl
  | impossible fault => exact inStep_throw _
  | settings l =>
    dsimp only
    cases ofLoaded room l with
    | ok settings => exact inStep_pure rfl
    | error fault => exact inStep_throw _

theorem beside_load_self (h : Host) (root : Path) :
    InStep excused (Beside SameButLog) Eq (load h root) (load h root) := by
  refine inStep_bind (inStep_ofPathResult _) fun yes _ hsame => ?_
  subst hsame
  split
  · exact inStep_pure rfl
  · cases h.readFile (fileIn root) with
    | ok bytes => exact beside_accept _ _ _
    | error e =>
      cases e with
      | refused => exact beside_reportUnreadable _
      | _ => exact inStep_throw _

/-- Bytes that cannot be used set nothing. -/
theorem beside_accept_unusable {room : Nat} (path : Path) {bytes : List UInt8}
    (hbytes : Unusable room bytes) :
    InStep excused (Beside SameButLog) Eq (pure {}) (accept room path bytes) := by
  unfold accept
  obtain hnone | hnone | hnone := hbytes
  · rw [hnone]
    exact beside_pure_report _ _ _ _
  · rw [hnone]
    exact beside_pure_report _ _ _ _
  · rw [hnone]
    exact inStep_pure rfl

/-- A file of the workspace that cannot be used sets what none would set. -/
theorem beside_load (hgrows : h.Grows h' directory name content)
    (hcontent : h'.locate (fileIn root) = .ok (directory ++ [name]) →
      Unusable h'.callDepth content) :
    InStep excused (Beside SameButLog) Eq (load h root) (load h' root) := by
  obtain hsame | ⟨hmissing, hloc, hfound⟩ := hgrows.isFileAt (fileIn root)
  · have hdepth : h.callDepth = h'.callDepth := by rw [hgrows.rest]
    have hload : load h root = load h' root := load_congr hdepth hsame fun hfile =>
      hgrows.readFile_of_isFile (isFile_of_isFileAt hfile)
    rw [hload]
    exact beside_load_self h' root
  · unfold load
    dsimp only
    rw [hmissing, hfound, hgrows.readFile_new hloc]
    simp only [ofPathResult, pure_bind]
    exact beside_accept_unusable _ (hcontent hloc)

end WorkspaceSettings

namespace IdeConfiguration

variable {path : Path}

theorem load_congr (hread : h.readFile path = h'.readFile path) : load h path = load h' path := by
  unfold load readDocument
  rw [hread]

theorem beside_load_self (h : Host) (path : Path) :
    InStep excused (Beside SameButLog) Eq (load h path) (load h path) := by
  unfold load
  cases readDocument h path with
  | error failure => exact inStep_throw _
  | ok found =>
    cases found with
    | error fault => exact inStep_bind (beside_report _ _ _ _ _ _) fun _ _ _ => inStep_pure rfl
    | ok root =>
      dsimp only
      split
      · exact inStep_pure rfl
      · exact inStep_bind (beside_report _ _ _ _ _ _) fun _ _ _ => inStep_pure rfl

/-- What is read is no document that configures the environment. -/
def PassesOver (found : Except ManifestFault Xml.Element) : Prop :=
  ∀ root, found = .ok root → root.tag ≠ "CONFIG"

theorem exists_load_eq_report {found : Except ManifestFault Xml.Element}
    (hread : readDocument h path = .ok found) (hfound : PassesOver found) :
    ∃ text, load h path = do
      Session.report .debug .ideSettings text
      return none := by
  unfold load
  rw [hread]
  cases found with
  | error fault => exact ⟨_, rfl⟩
  | ok root =>
    dsimp only
    rw [if_neg (hfound root rfl)]
    exact ⟨_, rfl⟩

theorem exists_passesOver_of_refused {e : FileError} {place : String}
    (hrefused : h.readFile path = .error (.refused e place)) :
    ∃ found, readDocument h path = .ok found ∧ PassesOver found :=
  ⟨.error (.unreadable e), by rw [readDocument, hrefused], nofun⟩

theorem exists_passesOver_of_unusable (hbytes : h.readFile path = .ok content)
    (hcontent : Unusable content) :
    ∃ found, readDocument h path = .ok found ∧ PassesOver found := by
  rw [readDocument, hbytes]
  obtain hparse | ⟨root, hparse, htag⟩ := hcontent
  · simp only [hparse]
    refine ⟨_, rfl, fun other heq => ?_⟩
    cases heq
  · simp only [hparse]
    exact ⟨_, rfl, fun other heq => Except.ok.inj heq ▸ htag⟩

/-- A file of the development environment that cannot be used is passed over like one that is not
there. -/
theorem beside_load (hgrows : h.Grows h' directory name content)
    (hcontent : h'.locate path = .ok (directory ++ [name]) → Unusable content) :
    InStep excused (Beside SameButLog) Eq (load h path) (load h' path) := by
  obtain hsame | ⟨⟨e, place, hold⟩, hnew⟩ := hgrows.readFile path
  · rw [load_congr hsame]
    exact beside_load_self h' path
  · have hfound : ∃ found, readDocument h' path = .ok found ∧ PassesOver found := by
      obtain ⟨e', place', hrefused⟩ | hloc := hnew
      · exact exists_passesOver_of_refused hrefused
      · exact exists_passesOver_of_unusable (hgrows.readFile_new hloc) (hcontent hloc)
    obtain ⟨old, hread, hpasses⟩ := exists_passesOver_of_refused hold
    obtain ⟨new, hread', hpasses'⟩ := hfound
    obtain ⟨text, hload⟩ := exists_load_eq_report hread hpasses
    obtain ⟨text', hload'⟩ := exists_load_eq_report hread' hpasses'
    rw [hload, hload']
    exact inStep_bind (beside_report _ _ _ _ _ _) fun _ _ _ => inStep_pure rfl

theorem beside_takeValues (directory : Path) (values : Values) :
    InStep excused (Beside SameButLog) Eq (takeValues directory values)
      (takeValues directory values) := by
  induction values with
  | nil => exact inStep_pure rfl
  | cons value rest ih =>
    obtain ⟨setting, text⟩ := value
    refine inStep_get_bind fun s t hst => ?_
    rw [hst.toolchain]
    refine (show InStep excused (Beside SameButLog) Eq _ _ from ?_) s t hst
    split
    · refine inStep_bind (beside_modify (fun _ _ => rfl) fun _ => rfl) fun _ _ _ => ?_
      refine inStep_bind (beside_report _ _ _ _ _ _) fun _ _ _ => ?_
      refine inStep_bind ih fun _ _ hsame => ?_
      subst hsame
      exact inStep_pure rfl
    · exact ih

theorem beside_fill (hgrows : h.Grows h' directory name content) {candidates : List Candidate}
    (hcontent : ∀ d, .ok d ∈ candidates → ∀ file ∈ [optionsFile, definesFile],
      h'.locate (d.child file) = .ok (directory ++ [name]) → Unusable content) :
    InStep excused (Beside SameButLog) Eq (fill h candidates) (fill h' candidates) := by
  induction candidates with
  | nil => exact inStep_pure rfl
  | cons candidate rest ih =>
    cases candidate with
    | error e => exact inStep_throw _
    | ok d =>
      have hhere := hcontent d List.mem_cons_self
      have hrest := fun d hd => hcontent d (List.mem_cons_of_mem _ hd)
      have hread {read : Xml.Element → Values} (file : String)
          (hfile : file ∈ [optionsFile, definesFile]) : InStep excused (Beside SameButLog) Eq
            (do return (← load h (d.child file)).map read)
            (do return (← load h' (d.child file)).map read) := by
        refine inStep_bind (beside_load hgrows (hhere file hfile)) fun _ _ hsame => ?_
        subst hsame
        exact inStep_pure rfl
      simp only [fill, ofPathResult, pure_bind]
      refine inStep_bind (hread optionsFile (by simp)) fun options _ hsame => ?_
      subst hsame
      refine inStep_bind (beside_takeValues _ _) fun filled _ hsame => ?_
      subst hsame
      refine inStep_bind (hread definesFile (by simp)) fun defines _ hsame => ?_
      subst hsame
      refine inStep_bind (beside_takeValues _ _) fun more _ hsame => ?_
      subst hsame
      refine inStep_bind (ih hrest) fun others _ hsame => ?_
      subst hsame
      exact inStep_pure rfl

end IdeConfiguration

namespace Handshake

variable {surroundings : Surroundings} {source : ManifestSource} {root : Path} {s t : Session}
  {before : Host}

/-- A file that cannot be used for what it is looked for. -/
structure Unusable (surroundings : Surroundings) (root : Path) (place : Location)
    (content : List UInt8) : Prop where
  settings : surroundings.host.locate (WorkspaceSettings.fileIn root) = .ok place →
    WorkspaceSettings.Unusable surroundings.host.callDepth content
  environment : ∀ d, Searched surroundings root (.ok d) →
    ∀ file ∈ [IdeConfiguration.optionsFile, IdeConfiguration.definesFile],
      surroundings.host.locate (d.child file) = .ok place → IdeConfiguration.Unusable content

/-- Which directories are searched does not depend on the files of the machine. -/
theorem ideDirectories_congr {tree : FileTree}
    (hrest : surroundings.host = { before with tree }) (settings : WorkspaceSettings) :
    ideDirectories { surroundings with host := before, source } settings =
      ideDirectories surroundings settings := by
  obtain ⟨host, _, directories, _, _⟩ := surroundings
  obtain rfl : host = { before with tree } := hrest
  rfl

theorem beside_ideDirectories (settings : WorkspaceSettings) :
    InStep excused (Beside SameButLog) Eq (ideDirectories surroundings settings)
      (ideDirectories surroundings settings) := by
  unfold ideDirectories
  split
  · exact inStep_pure rfl
  · exact inStep_mapM fun text _ => inStep_ofPathResult _
  · have hplaces : InStep excused (Beside SameButLog) Eq
        (IdeConfiguration.directoriesOf surroundings.host)
        (IdeConfiguration.directoriesOf surroundings.host) := by
      refine inStep_bind (inStep_ofPathResult _) fun home _ hsame => ?_
      subst hsame
      exact inStep_pure rfl
    refine inStep_bind hplaces fun places _ hsame => ?_
    subst hsame
    exact inStep_pure rfl

theorem beside_reportMissing :
    InStep excused (Beside SameButLog) Any reportMissing reportMissing := by
  refine inStep_get_bind fun s t hst => ?_
  rw [hst.toolchain]
  refine (show InStep excused (Beside SameButLog) Any _ _ from ?_) s t hst
  dsimp only
  split
  · exact inStep_pure trivial
  · exact beside_report _ _ _ _ _ _

section Grows

variable (hgrows : before.Grows surroundings.host directory name content)
  (hunusable : Unusable surroundings root (directory ++ [name]) content)
include hgrows hunusable

theorem agree_prepareToolchain (hsettings :
      ∀ u, (outcome (WorkspaceSettings.load surroundings.host root) u).1 = .ok s.settings)
    (hst : Beside SameButLog s t) : Agree excused (Beside SameButLog) Any
      (outcome (prepareToolchain { surroundings with host := before, source } root) s)
      (outcome (prepareToolchain surroundings root) t) := by
  rw [prepareToolchain, prepareToolchain, outcome_bind_ok _ (outcome_get _),
    outcome_bind_ok _ (outcome_get _), hst.settings, ideDirectories_congr hgrows.rest]
  refine inStep_bind ((beside_ideDirectories _).with_result fun _ _ _ hrun =>
    (outcome_ideDirectories hrun).1) (fun candidates _ hfound => ?_) s t hst
  obtain ⟨rfl, hforce⟩ := hfound
  refine inStep_bind (IdeConfiguration.beside_fill hgrows fun d hd => ?_) fun _ _ _ => ?_
  · exact hunusable.environment d ⟨_, _, hsettings, hforce, hd⟩
  · refine inStep_bind beside_reportMissing fun _ _ _ => ?_
    exact beside_modify (fun _ _ => rfl) fun _ => rfl

/-- Once it is accepted, a request is served in the same way without the file. -/
theorem beside_serveAccepted (ht : surroundings.host.tree.WellFormed)
    (hnone : ∀ ignored, ∀ visit ∈ Visit.all surroundings.host ignored root, visit.listed = []) :
    InStep excused (Beside SameButLog) Eq
      (serveAccepted { surroundings with host := before, source } root)
      (serveAccepted surroundings root) := by
  refine inStep_bind (beside_modify (fun _ _ => rfl) fun _ => rfl) fun _ _ _ => ?_
  refine inStep_bind ((WorkspaceSettings.beside_load hgrows hunusable.settings).with_result
    fun _ _ _ hrun => ((WorkspaceSettings.reads_load _ _).of_outcome hrun).1)
    fun settings _ hfound => ?_
  obtain ⟨rfl, hsettings⟩ := hfound
  intro s t hst
  rw [outcome_bind_ok _ (outcome_modify _ _), outcome_bind_ok _ (outcome_modify _ _)]
  have hset : Beside SameButLog { s with settings } { t with settings } := by
    obtain ⟨w, rfl, hw⟩ := hst
    exact ⟨w, rfl, hw⟩
  refine agree_bind (agree_prepareToolchain hgrows hunusable hsettings hset) fun _ _ _ => ?_
  refine inStep_bind (beside_startEngine _) fun _ _ _ => ?_
  refine inStep_bind (beside_modify (fun _ _ => rfl) fun _ => rfl) fun _ _ _ => ?_
  refine inStep_bind (beside_scan hgrows.canonical (fun ignored => hgrows.alike_all ht ignored root)
    hnone) fun _ _ _ => ?_
  exact inStep_pure rfl

end Grows

theorem accept_eq_of_grows (hgrows : before.Grows surroundings.host directory name content)
    (members : Json.Members) :
    accept before members = accept surroundings.host members := by
  simp only [accept, locateRoot, hgrows.canonical]

theorem grows_clear (content : List UInt8) :
    clearHost.Grows (deskHost content) ["c"] "fpcdefines.xml" content where
  tree := {
    entries := ⟨[(["w"], .directory), (["c"], .directory)], [], rfl, rfl⟩
    parent := rfl
    fresh := by simp [clearHost]
    size := by decide }
  rest := rfl
  cwd := by simp [clearHost, deskHost]

/-- A document that is well-formed, and of another kind. -/
def oddFile : List UInt8 := "<x/>".toList.map fun c => c.toNat.toUInt8

theorem readSource_odd : Xml.readSource oddFile = .ok (⟨none, false⟩, "<x/>".toList) := by
  decide +kernel

theorem parse_odd : Xml.parse oddFile = .ok ⟨"x", [], []⟩ := by
  rw [Xml.parse, readSource_odd]
  rfl

theorem unusable_odd :
    Unusable (deskSurroundings oddFile) deskRoot ["c", "fpcdefines.xml"] oddFile where
  settings hplace := by cases (locate_desk_settings oddFile).symm.trans hplace
  environment _ _ _ _ _ := .inr ⟨_, parse_odd, by decide⟩

/-- The encoding that the document names is not known. -/
def strayFile : List UInt8 :=
  "<?xml version='1.0' encoding='nope'?><CONFIG/>".toList.map fun c => c.toNat.toUInt8

theorem parse_stray : Xml.parse strayFile = .error .unknownEncoding := by
  have hparse : (Xml.parse strayFile).map (fun _ => ()) = .error .unknownEncoding := by
    decide +kernel
  cases hresult : Xml.parse strayFile with
  | ok root =>
    rw [hresult] at hparse
    cases hparse
  | error fault =>
    rw [hresult] at hparse
    rw [Except.error.inj hparse]

theorem outcome_fill_stray (s : Session) :
    ∃ t, outcome (IdeConfiguration.fill (deskHost strayFile) [.ok ⟨.root, ["c"]⟩]) s =
      (.error .unknownEncoding, t) := by
  have hdefines : readDocument (deskHost strayFile) ⟨.root, ["c", IdeConfiguration.definesFile]⟩ =
      .error .unknownEncoding := by
    rw [readDocument, readFile_desk_defines]
    simp only [parse_stray]
  have hoptionsPath : Path.child ⟨.root, ["c"]⟩ IdeConfiguration.optionsFile =
      ⟨.root, ["c", IdeConfiguration.optionsFile]⟩ := rfl
  have hdefinesPath : Path.child ⟨.root, ["c"]⟩ IdeConfiguration.definesFile =
      ⟨.root, ["c", IdeConfiguration.definesFile]⟩ := rfl
  obtain ⟨options, t, hoptions⟩ :=
    IdeConfiguration.exists_outcome_load (readDocument_desk_options strayFile) s
  obtain ⟨filled, u, htaken, -⟩ := IdeConfiguration.outcome_takeValues ⟨.root, ["c"]⟩
    ((options.map IdeConfiguration.optionValues).getD []) t
  have hload : outcome (IdeConfiguration.load (deskHost strayFile)
      ⟨.root, ["c", IdeConfiguration.definesFile]⟩) u = (.error .unknownEncoding, u) := by
    rw [IdeConfiguration.load, hdefines]
    rfl
  refine ⟨u, ?_⟩
  simp only [IdeConfiguration.fill, IdeConfiguration.readOptions, IdeConfiguration.readDefines,
    hoptionsPath, hdefinesPath, outcome_bind, outcome_ofPathResult_ok, hoptions, outcome_pure, htaken,
    hload]

theorem outcome_prepareToolchain_stray (s : Session) :
    ∃ t, outcome (prepareToolchain (deskSurroundings strayFile) deskRoot) s =
      (.error .unknownEncoding, t) := by
  obtain ⟨t, hfill⟩ := outcome_fill_stray s
  refine ⟨t, ?_⟩
  simp only [prepareToolchain, ideDirectories, deskSurroundings, outcome_bind, outcome_get,
    outcome_pure, List.map_cons, List.map_nil, hfill]

end Handshake

end PascalWorkspace
