import Mathlib.Data.List.Forall2
import PascalWorkspace.Proofs.Except
import PascalWorkspace.Proofs.Host.Canonical
import PascalWorkspace.Proofs.Session.Calls
import PascalWorkspace.Proofs.Toolchain.Filling

/-! The toolchain that a request leaves: which of the client, the configuration files and the
environment each setting comes from. -/
namespace PascalWorkspace

open Operation

namespace Session

variable {α β : Type} {s t u : Session}

/-- Nothing but the toolchain and the workspace of a session has changed. -/
def Equipped (toolchain : Toolchain) (s t : Session) : Prop :=
  ∃ workspace, t = { s with toolchain, workspace }

theorem Equipped.trans {first second : Toolchain} (hst : Equipped first s t)
    (htu : Equipped second t u) : Equipped second s u := by
  obtain ⟨_, rfl⟩ := hst
  obtain ⟨w, rfl⟩ := htu
  exact ⟨w, rfl⟩

theorem equipped_refl (s : Session) : Equipped s.toolchain s s := ⟨s.workspace, rfl⟩

/-- The result does not depend on the session, which is left with more reports at most. -/
def Reads (act : Operation Session α) : Prop :=
  ∃ result, ∀ s, ∃ t, outcome act s = (result, t) ∧ Equipped s.toolchain s t

theorem reads_pure (a : α) : Reads (pure a) := ⟨.ok a, fun s => ⟨s, rfl, equipped_refl s⟩⟩

theorem reads_throw (failure : Failure) : Reads (throw failure : Operation Session α) :=
  ⟨.error failure, fun s => ⟨s, rfl, equipped_refl s⟩⟩

theorem reads_ofPathResult (result : Except PathError α) :
    Reads (ofPathResult result : Operation Session α) := by
  cases result with
  | ok a => exact reads_pure a
  | error e => exact reads_throw (.badPath e)

theorem reads_report (level : Level) (reporter : Reporter) (text : String) :
    Reads (report level reporter text) := by
  refine ⟨.ok (), fun s => ?_⟩
  rw [report, outcome_onWorkspace]
  exact ⟨_, rfl, _, rfl⟩

theorem reads_bind {act : Operation Session α} {f : α → Operation Session β} (hact : Reads act)
    (hf : ∀ a, Reads (f a)) : Reads (act >>= f) := by
  obtain ⟨result, hact⟩ := hact
  cases result with
  | error failure =>
    refine ⟨.error failure, fun s => ?_⟩
    obtain ⟨t, hrun, ht⟩ := hact s
    exact ⟨t, by rw [outcome_bind, hrun], ht⟩
  | ok a =>
    obtain ⟨last, hf⟩ := hf a
    refine ⟨last, fun s => ?_⟩
    obtain ⟨t, hrun, ht⟩ := hact s
    obtain ⟨u, hnext, hu⟩ := hf t
    refine ⟨u, (outcome_bind_ok f hrun).trans hnext, ?_⟩
    obtain ⟨_, rfl⟩ := ht
    exact hu

/-- What is read in one session would be read in any other. -/
theorem Reads.of_outcome {act : Operation Session α} {result : Except Failure α} (h : Reads act)
    (hrun : outcome act s = (result, t)) :
    (∀ u, (outcome act u).1 = result) ∧ Equipped s.toolchain s t := by
  obtain ⟨found, h⟩ := h
  obtain ⟨t', hrun', ht⟩ := h s
  cases hrun.symm.trans hrun'
  refine ⟨fun u => ?_, ht⟩
  obtain ⟨_, hu, -⟩ := h u
  rw [hu]

theorem outcome_startEngine (env : Environment) (s : Session) : ∃ workspace,
    outcome (startEngine env) s = (.ok (), { s with
      workspace, engine := some (s.toolchain.withEnvironment env) }) := by
  rw [startEngine, outcome_bind_ok _ (outcome_get s), outcome_bind_ok _ (outcome_modify _ s)]
  exact ⟨_, outcome_onWorkspace _⟩

/-- Nothing but the workspace of a session and the number of manifests has changed. -/
def Walked (s t : Session) : Prop :=
  ∃ workspace manifestsFound, t = { s with workspace, manifestsFound }

instance : IsPreorder Session Walked where
  refl s := ⟨s.workspace, s.manifestsFound, rfl⟩
  trans _ _ _ hst htu := by
    obtain ⟨_, _, rfl⟩ := hst
    obtain ⟨w, found, rfl⟩ := htu
    exact ⟨w, found, rfl⟩

theorem keeps_walked_onWorkspace (act : Action α) : Keeps Walked (onWorkspace act) := by
  intro s
  rw [after, outcome_onWorkspace]
  exact ⟨_, _, rfl⟩

theorem keeps_walked_scan (h : Host) (source : ManifestSource) (root : Path) :
    Keeps Walked (scan h source root) :=
  keeps_bind keeps_get fun _ =>
    keeps_bind (keeps_walked_onWorkspace _) fun found =>
      keeps_bind (fun s => ⟨s.workspace, found, rfl⟩) fun _ =>
        keeps_bind (keeps_walked_onWorkspace _) fun _ =>
          keeps_bind (keeps_walked_onWorkspace _) fun _ =>
            keeps_bind keeps_get fun _ => keeps_walked_onWorkspace _

end Session

open Session

namespace IdeConfiguration

variable {h : Host} {s t : Session} {setting : Setting}

/-- The root of a configuration file; none if the file is missing, cannot be read or is rejected. -/
def root? (h : Host) (path : Path) : Option Xml.Element :=
  match readDocument h path with
  | .ok (.ok root) => if root.tag = "CONFIG" then some root else none
  | _ => none

/-- What a section of the file of options in a directory has under a tag. -/
def optionIn (h : Host) (directory : Path) (tag : String) : Text.Wide :=
  let options := (root? h (directory.child optionsFile)).bind (·.child? "EnvironmentOptions")
  Xml.childValue options tag "Value"

/-- What the file of defines in a directory has for its first compiler. -/
def targetIn (h : Host) (directory : Path) (key : String) : Text.Wide :=
  let compilers := (root? h (directory.child definesFile)).bind (·.child? "FPCConfigs")
  Xml.childValue (compilers.bind (·.children.head?)) "RealCompiler" key

/-- The value that the files in a directory hold for a setting, empty if they hold none. -/
def valueIn (h : Host) (setting : Setting) (directory : Path) : Text.Wide :=
  match setting with
  | .compiler => optionIn h directory "CompilerFilename"
  | .compilerSources => optionIn h directory "FPCSourceDirectory"
  | .ideSources => optionIn h directory "LazarusDirectory"
  | .targetOs => targetIn h directory "OS"
  | .targetCpu => targetIn h directory "CPU"
  | .projectDirectory | .scratchFile => ""

/-- The values in the files of a directory, in the order in which they are taken. -/
def valuesIn (h : Host) (directory : Path) : Values :=
  ((root? h (directory.child optionsFile)).map optionValues).getD [] ++
    ((root? h (directory.child definesFile)).map defineValues).getD []

/-- Each setting stands in one file and there at most once. -/
theorem firstNonEmpty_valuesIn (directory : Path) (hguess : setting ∈ Setting.guessable) :
    firstNonEmpty (Toolchain.valuesFor setting (valuesIn h directory)) =
      valueIn h setting directory := by
  unfold valuesIn valueIn optionIn targetIn
  cases setting <;> simp [Setting.guessable] at hguess <;>
    cases root? h (directory.child optionsFile) <;>
    cases root? h (directory.child definesFile) <;>
    first
    | rfl
    | exact firstNonEmpty_singleton _

theorem outcome_load {path : Path} {found : Option Xml.Element}
    (hrun : outcome (load h path) s = (.ok found, t)) :
    found = root? h path ∧ Equipped s.toolchain s t := by
  unfold load at hrun
  unfold root?
  cases hread : readDocument h path with
  | error failure =>
    simp only [hread] at hrun
    cases hrun
  | ok read =>
    cases read with
    | error fault =>
      simp only [hread] at hrun
      obtain ⟨_, _, hreport, hlast⟩ := outcome_bind_eq_ok hrun
      cases hlast
      exact ⟨rfl, ((reads_report _ _ _).of_outcome hreport).2⟩
    | ok root =>
      simp only [hread] at hrun
      by_cases htag : root.tag = "CONFIG"
      · rw [if_pos htag] at hrun
        cases hrun
        exact ⟨(if_pos htag).symm, equipped_refl s⟩
      · rw [if_neg htag] at hrun
        obtain ⟨_, _, hreport, hlast⟩ := outcome_bind_eq_ok hrun
        cases hlast
        exact ⟨(if_neg htag).symm, ((reads_report _ _ _).of_outcome hreport).2⟩

theorem outcome_takeValues (directory : Path) (values : Values) (s : Session) :
    ∃ filled t, outcome (takeValues directory values) s = (.ok filled, t) ∧
      Equipped (s.toolchain.fillAll values) s t := by
  induction values generalizing s with
  | nil => exact ⟨[], s, rfl, equipped_refl s⟩
  | cons v values ih =>
    obtain ⟨setting, value⟩ := v
    have hhead : s.toolchain.fillAll ((setting, value) :: values) =
        (s.toolchain.fill setting value).fillAll values := rfl
    rw [hhead, Toolchain.fill, takeValues, outcome_bind_ok _ (outcome_get s)]
    by_cases haccept : s.toolchain.accepts setting value = true
    · rw [if_pos haccept, if_pos haccept, outcome_bind_ok _ (outcome_modify _ s)]
      dsimp only [Session.report]
      rw [outcome_bind_ok _ (outcome_onWorkspace _)]
      obtain ⟨filled, t, hrest, w, rfl⟩ := ih _
      rw [outcome_bind_ok _ hrest]
      exact ⟨_, _, rfl, w, rfl⟩
    · rw [if_neg haccept, if_neg haccept]
      exact ih s

/-- A file that is missing or wrong is passed over. -/
theorem exists_outcome_load {path : Path} {found : Except ManifestFault Xml.Element}
    (hread : readDocument h path = .ok found) (s : Session) :
    ∃ root t, outcome (load h path) s = (.ok root, t) := by
  unfold load
  simp only [hread]
  cases found with
  | error fault => exact ⟨none, _, outcome_bind_ok _ (outcome_onWorkspace _)⟩
  | ok root =>
    by_cases htag : root.tag = "CONFIG"
    · simp only [if_pos htag]
      exact ⟨some root, s, rfl⟩
    · simp only [if_neg htag]
      exact ⟨none, _, outcome_bind_ok _ (outcome_onWorkspace _)⟩

/-- Only a file in an encoding that is not known stops the search. -/
theorem exists_outcome_fill {directories : List Path}
    (hread : ∀ directory ∈ directories, ∀ file ∈ [optionsFile, definesFile],
      ∃ found, readDocument h (directory.child file) = .ok found) (s : Session) :
    ∃ filled t, outcome (fill h (directories.map .ok)) s = (.ok filled, t) := by
  induction directories generalizing s with
  | nil => exact ⟨[], s, rfl⟩
  | cons directory rest ih =>
    obtain ⟨hhere, hrest⟩ := List.forall_mem_cons.1 hread
    obtain ⟨options, hoptions⟩ := hhere optionsFile (by simp)
    obtain ⟨defines, hdefines⟩ := hhere definesFile (by simp)
    obtain ⟨root, s₁, h₁⟩ := exists_outcome_load hoptions s
    obtain ⟨_, s₂, h₂, -⟩ := outcome_takeValues directory ((root.map optionValues).getD []) s₁
    obtain ⟨root', s₃, h₃⟩ := exists_outcome_load hdefines s₂
    obtain ⟨_, s₄, h₄, -⟩ := outcome_takeValues directory ((root'.map defineValues).getD []) s₃
    obtain ⟨others, t, hlast⟩ := ih hrest s₄
    simp only [List.map_cons, fill, outcome_ofPathResult_ok, readOptions, readDefines, bind_assoc,
      pure_bind, outcome_bind, h₁, h₂, h₃, h₄, hlast, outcome_pure]
    exact ⟨_, t, rfl⟩

/-- What a run over one directory does to the settings. -/
theorem outcome_fill_cons {candidate : Candidate} {rest : List Candidate} {filled : List Setting}
    (hrun : outcome (fill h (candidate :: rest)) s = (.ok filled, t)) :
    ∃ directory u others, candidate = .ok directory ∧
      Equipped (s.toolchain.fillAll (valuesIn h directory)) s u ∧
      outcome (fill h rest) u = (.ok others, t) := by
  obtain ⟨directory, s₀, hcandidate, hafter⟩ := outcome_bind_eq_ok hrun
  obtain ⟨hdirectory, rfl⟩ := outcome_ofPathResult_eq_ok hcandidate
  obtain ⟨options, s₁, hread, hrun⟩ := outcome_bind_eq_ok hafter
  obtain ⟨found, s₁', hload, hmap⟩ := outcome_bind_eq_ok hread
  cases hmap
  obtain ⟨rfl, h₁⟩ := outcome_load hload
  obtain ⟨_, s₂, htake, hrun⟩ := outcome_bind_eq_ok hrun
  obtain ⟨_, _, htaken, h₂⟩ := outcome_takeValues directory
    (((root? h (directory.child optionsFile)).map optionValues).getD []) s₁
  cases htake.symm.trans htaken
  obtain ⟨defines, s₃, hread, hrun⟩ := outcome_bind_eq_ok hrun
  obtain ⟨found, s₃', hload, hmap⟩ := outcome_bind_eq_ok hread
  cases hmap
  obtain ⟨rfl, h₃⟩ := outcome_load hload
  obtain ⟨_, s₄, htake, hrun⟩ := outcome_bind_eq_ok hrun
  obtain ⟨_, _, htaken, h₄⟩ := outcome_takeValues directory
    (((root? h (directory.child definesFile)).map defineValues).getD []) s₃
  cases htake.symm.trans htaken
  obtain ⟨others, _, hrest, hresult⟩ := outcome_bind_eq_ok hrun
  cases hresult
  refine ⟨directory, s₄, others, hdirectory, ?_, hrest⟩
  obtain ⟨_, rfl⟩ := h₁
  obtain ⟨_, rfl⟩ := h₂
  obtain ⟨_, rfl⟩ := h₃
  obtain ⟨w, rfl⟩ := h₄
  exact ⟨w, by rw [valuesIn, Toolchain.fillAll_append]⟩

/-- Whatever is found for the others, a setting that is not known gets the first value that is found
for it. -/
theorem outcome_fill {candidates : List Candidate} {filled : List Setting}
    (hrun : outcome (fill h candidates) s = (.ok filled, t)) :
    ∃ (directories : List Path) (toolchain : Toolchain), candidates = directories.map .ok ∧
      Equipped toolchain s t ∧ ∀ setting ∈ Setting.guessable, toolchain.get setting =
        firstNonEmpty (s.toolchain.get setting :: directories.map (valueIn h setting)) := by
  induction candidates generalizing s filled with
  | nil =>
    cases hrun
    exact ⟨[], t.toolchain, rfl, equipped_refl t, fun _ _ => (firstNonEmpty_singleton _).symm⟩
  | cons candidate rest ih =>
    obtain ⟨directory, u, others, rfl, hu, hrest⟩ := outcome_fill_cons hrun
    obtain ⟨directories, toolchain, rfl, ht, hvalues⟩ := ih hrest
    refine ⟨directory :: directories, toolchain, rfl, hu.trans ht, fun setting hguess => ?_⟩
    have hnow : u.toolchain.get setting =
        firstNonEmpty [s.toolchain.get setting, valueIn h setting directory] := by
      obtain ⟨_, rfl⟩ := hu
      rw [Toolchain.get_fillAll, ← firstNonEmpty_valuesIn directory hguess, firstNonEmpty_pair]
    rw [hvalues setting hguess, hnow]
    exact (firstNonEmpty_append [_, _] _).symm

end IdeConfiguration

namespace WorkspaceSettings

theorem reads_reportUnreadable (path : Path) : Reads (reportUnreadable path) :=
  reads_bind (reads_report _ _ _) fun _ => reads_pure _

theorem reads_accept (room : Nat) (path : Path) (bytes : List UInt8) :
    Reads (accept room path bytes) := by
  unfold accept
  split
  · exact reads_reportUnreadable path
  · exact reads_bind (reads_report _ _ _) fun _ => reads_pure _
  · exact reads_pure _
  · exact reads_throw _
  · split
    · exact reads_pure _
    · exact reads_throw _

/-- What the file of a workspace sets does not depend on the session that reads it. -/
theorem reads_load (h : Host) (root : Path) : Reads (load h root) := by
  refine reads_bind (reads_ofPathResult _) fun isFile => ?_
  split
  · exact reads_pure _
  · split
    · exact reads_accept _ _ _
    · exact reads_reportUnreadable _
    · exact reads_throw _

end WorkspaceSettings

namespace Handshake

variable {surroundings : Surroundings} {s t : Session}

/-- The directories that are searched for configuration files: those given, else those set for the
workspace, else the usual ones. -/
inductive InForce (surroundings : Surroundings) (settings : WorkspaceSettings) :
    List IdeConfiguration.Candidate → Prop where
  | given {directories : List Path} (hgiven : surroundings.ideDirectories = some directories) :
    InForce surroundings settings (directories.map .ok)
  | configured {texts : List Text.Wide} {candidates : List IdeConfiguration.Candidate}
    (hgiven : surroundings.ideDirectories = none) (hset : settings.ideDirectories = some texts)
    (hnamed : List.Forall₂ (fun text candidate =>
      IdeConfiguration.candidateNamed surroundings.host text = .ok candidate) texts candidates) :
    InForce surroundings settings candidates
  | usual {home : Path} (hgiven : surroundings.ideDirectories = none)
    (hset : settings.ideDirectories = none) (hhome : surroundings.host.home = .ok home) :
    InForce surroundings settings ((IdeConfiguration.usualDirectories surroundings.host.platform
      surroundings.host.environment home).map .ok)

/-- The directories that are given are those in force. -/
theorem InForce.eq_of_given {settings : WorkspaceSettings} {given : List Path}
    {candidates : List IdeConfiguration.Candidate}
    (hforce : InForce surroundings settings candidates)
    (hgiven : surroundings.ideDirectories = some given) : candidates = given.map .ok := by
  cases hforce with
  | given hdirectories => rw [Option.some.inj (hdirectories.symm.trans hgiven)]
  | configured hnone => cases hnone.symm.trans hgiven
  | usual hnone => cases hnone.symm.trans hgiven

/-- Only texts of the configuration file can turn out to name no directory. -/
theorem InForce.error_not_mem {settings : WorkspaceSettings}
    {candidates : List IdeConfiguration.Candidate}
    (hforce : InForce surroundings settings candidates) (hset : settings.ideDirectories = none)
    {e : PathError} : .error e ∉ candidates := by
  cases hforce with
  | configured _ hsome => cases hset.symm.trans hsome
  | _ => simp

theorem outcome_mapM_ofPathResult {α β σ : Type} {f : α → Except PathError β} {xs : List α}
    {ys : List β} {s t : σ}
    (hrun : outcome (xs.mapM fun x => (ofPathResult (f x) : Operation σ β)) s = (.ok ys, t)) :
    List.Forall₂ (fun x y => f x = .ok y) xs ys ∧ t = s := by
  induction xs generalizing ys with
  | nil =>
    cases hrun
    exact ⟨.nil, rfl⟩
  | cons x xs ih =>
    rw [List.mapM_cons] at hrun
    obtain ⟨y, s₁, hx, hafter⟩ := outcome_bind_eq_ok hrun
    obtain ⟨others, s₂, hxs, hlast⟩ := outcome_bind_eq_ok hafter
    cases hlast
    obtain ⟨hfx, rfl⟩ := outcome_ofPathResult_eq_ok hx
    obtain ⟨hothers, rfl⟩ := ih hxs
    exact ⟨.cons hfx hothers, rfl⟩

theorem outcome_ideDirectories {settings : WorkspaceSettings}
    {candidates : List IdeConfiguration.Candidate}
    (hrun : outcome (ideDirectories surroundings settings) s = (.ok candidates, t)) :
    InForce surroundings settings candidates ∧ t = s := by
  unfold ideDirectories at hrun
  cases hgiven : surroundings.ideDirectories with
  | some given =>
    simp only [hgiven] at hrun
    cases hrun
    exact ⟨.given hgiven, rfl⟩
  | none =>
    cases hset : settings.ideDirectories with
    | some texts =>
      simp only [hgiven, hset] at hrun
      obtain ⟨hnamed, rfl⟩ := outcome_mapM_ofPathResult hrun
      exact ⟨.configured hgiven hset hnamed, rfl⟩
    | none =>
      simp only [hgiven, hset] at hrun
      obtain ⟨places, s₁, hplaces, hlast⟩ := outcome_bind_eq_ok hrun
      obtain ⟨home, s₂, hhome, husual⟩ := outcome_bind_eq_ok hplaces
      obtain ⟨hknown, rfl⟩ := outcome_ofPathResult_eq_ok hhome
      cases husual
      cases hlast
      exact ⟨.usual hgiven hset hknown, rfl⟩

/-! ### The course of a request -/

theorem outcome_accept {members : Json.Members} {root : Path}
    (hrun : outcome (accept surroundings.host members) s = (.ok root, t)) :
    ∃ toolchain, t = { s with toolchain } ∧ s.toolchain.withClientOptions
      (Json.Value.member members "initializationOptions") = .ok toolchain := by
  obtain ⟨_, s₁, htake, hlocate⟩ := outcome_bind_eq_ok hrun
  have hkept : t = s₁ := by
    unfold locateRoot at hlocate
    split at hlocate
    · cases hlocate
    · split at hlocate <;> cases hlocate
      rfl
  rw [acceptOptions, outcome_bind_ok _ (outcome_get s)] at htake
  cases hoptions : s.toolchain.withClientOptions
      (Json.Value.member members "initializationOptions") with
  | error fault =>
    simp only [hoptions] at htake
    cases htake
  | ok toolchain =>
    simp only [hoptions] at htake
    cases htake
    exact ⟨toolchain, hkept, rfl⟩

theorem outcome_reportMissing (s : Session) :
    ∃ t, outcome reportMissing s = (.ok (), t) ∧ Equipped s.toolchain s t := by
  rw [reportMissing, outcome_bind_ok _ (outcome_get s)]
  dsimp only
  split
  · exact ⟨s, rfl, equipped_refl s⟩
  · exact ⟨_, outcome_onWorkspace _, _, rfl⟩

/-- What the directories in force have for the settings that the client leaves open. -/
theorem outcome_prepareToolchain {root : Path}
    (hrun : outcome (prepareToolchain surroundings root) s = (.ok (), t)) :
    ∃ (directories : List Path) (toolchain : Toolchain), InForce surroundings s.settings (directories.map .ok) ∧
      Equipped toolchain s t ∧ ∀ setting ∈ Setting.guessable, toolchain.get setting =
        firstNonEmpty (s.toolchain.get setting ::
          directories.map (IdeConfiguration.valueIn surroundings.host setting)) := by
  obtain ⟨_, _, hget, hafter⟩ := outcome_bind_eq_ok hrun
  cases hget
  obtain ⟨candidates, s₁, hsearch, hrest⟩ := outcome_bind_eq_ok hafter
  obtain ⟨_, s₂, hfill, hend⟩ := outcome_bind_eq_ok hrest
  obtain ⟨directories, found, rfl, ⟨_, rfl⟩, hvalues⟩ := IdeConfiguration.outcome_fill hfill
  obtain ⟨hforce, hkept⟩ := outcome_ideDirectories hsearch
  subst hkept
  obtain ⟨_, s₃, hmissing, hlast⟩ := outcome_bind_eq_ok hend
  obtain ⟨_, hreported, _, rfl⟩ := outcome_reportMissing _
  cases hmissing.symm.trans hreported
  cases hlast
  refine ⟨directories, _, hforce, ⟨_, rfl⟩, fun setting hguess => ?_⟩
  rw [← hvalues setting hguess]
  cases setting <;> simp [Setting.guessable] at hguess <;> rfl

/-- What a request does before the engine is started. -/
def prepare (surroundings : Surroundings) (members : Json.Members) :
    Operation Session Path := do
  let root ← accept surroundings.host members
  modify fun session => { session with root := some root }
  let settings ← WorkspaceSettings.load surroundings.host root
  modify fun session => { session with settings }
  prepareToolchain surroundings root
  return root

theorem serve_eq_prepare (members : Json.Members) :
    serve surroundings (.object members) = do
      let root ← prepare surroundings members
      Session.startEngine surroundings.environment
      modify fun session => { session with sortsForHistory := true, sortsForScope := true }
      Session.scan surroundings.host surroundings.source root
      return capabilities := by
  simp only [serve, prepare, bind_assoc, pure_bind]

/-- The settings before the engine is started: the client counts before the directories, and these
count in their order. -/
theorem outcome_prepare {members : Json.Members} {root : Path}
    (hrun : outcome (prepare surroundings members) {} = (.ok root, t)) :
    ∃ directories : List Path, t.root = some root ∧
      (∀ u, (outcome (WorkspaceSettings.load surroundings.host root) u).1 = .ok t.settings) ∧
      InForce surroundings t.settings (directories.map .ok) ∧
      ∀ setting ∈ Setting.guessable, t.toolchain.get setting =
        firstNonEmpty (Toolchain.clientText (Json.Value.member members "initializationOptions")
          setting :: directories.map (IdeConfiguration.valueIn surroundings.host setting)) := by
  obtain ⟨_, _, haccept, hafter⟩ := outcome_bind_eq_ok hrun
  obtain ⟨given, rfl, hoptions⟩ := outcome_accept haccept
  obtain ⟨_, _, hset, hafter⟩ := outcome_bind_eq_ok hafter
  cases hset
  obtain ⟨settings, _, hload, hafter⟩ := outcome_bind_eq_ok hafter
  obtain ⟨hsettings, hkept⟩ := (WorkspaceSettings.reads_load _ _).of_outcome hload
  obtain ⟨_, _, hset, hafter⟩ := outcome_bind_eq_ok hafter
  cases hset
  obtain ⟨_, _, hprepare, hlast⟩ := outcome_bind_eq_ok hafter
  obtain ⟨directories, found, hforce, hfound, hvalues⟩ := outcome_prepareToolchain hprepare
  cases hlast
  obtain ⟨_, rfl⟩ := hkept
  obtain ⟨_, rfl⟩ := hfound
  refine ⟨directories, rfl, hsettings, hforce, fun setting hguess => ?_⟩
  rw [hvalues setting hguess, ← Toolchain.get_withClientOptions hoptions hguess]

/-- A request that is served has been prepared; after that the toolchain is only completed for the
engine. -/
theorem outcome_serve {params result : Json.Value}
    (hrun : outcome (serve surroundings params) s = (.ok result, t)) :
    ∃ members root u, params = .object members ∧
      outcome (prepare surroundings members) s = (.ok root, u) ∧ t.root = u.root ∧
      t.settings = u.settings ∧ t.toolchain = u.toolchain ∧
      t.engine = some (u.toolchain.withEnvironment surroundings.environment) := by
  cases params with
  | object members =>
    rw [serve_eq_prepare] at hrun
    obtain ⟨root, u, hprepare, hafter⟩ := outcome_bind_eq_ok hrun
    obtain ⟨_, _, hstart, hafter⟩ := outcome_bind_eq_ok hafter
    obtain ⟨w, hstarted⟩ := outcome_startEngine surroundings.environment u
    cases hstart.symm.trans hstarted
    obtain ⟨_, _, hsort, hafter⟩ := outcome_bind_eq_ok hafter
    cases hsort
    obtain ⟨_, v, hscan, hlast⟩ := outcome_bind_eq_ok hafter
    obtain ⟨_, _, rfl⟩ := (keeps_walked_scan _ _ root).of_outcome hscan
    cases hlast
    exact ⟨members, root, u, rfl, hprepare, rfl, rfl, rfl, rfl⟩
  | _ => cases hrun

/-- Each setting has the first value that the client or the directories in force give for it, in
this order and whatever the other settings have. The engine has the same value, or that of the
environment where there is none. The environment of the engine has no part in the settings. -/
theorem toolchain_precedence {params result : Json.Value}
    (hserve : outcome (serve surroundings params) {} = (.ok result, t)) :
    ∃ members root, ∃ directories : List Path, ∃ engine,
      params = .object members ∧ t.root = some root ∧
      (∀ u, (outcome (WorkspaceSettings.load surroundings.host root) u).1 = .ok t.settings) ∧
      InForce surroundings t.settings (directories.map .ok) ∧ t.engine = some engine ∧
      (∀ setting ∈ Setting.guessable,
        t.toolchain.get setting = firstNonEmpty
          (Toolchain.clientText (Json.Value.member members "initializationOptions") setting ::
            directories.map (IdeConfiguration.valueIn surroundings.host setting)) ∧
        engine.get setting = if (t.toolchain.get setting).isEmpty
          then Toolchain.environmentValue surroundings.environment setting
          else t.toolchain.get setting) ∧
      ∀ environment result' u,
        outcome (serve { surroundings with environment } params) {} = (.ok result', u) →
        u.toolchain = t.toolchain := by
  obtain ⟨members, root, u, rfl, hprepare, hroot, hset, htoolchain, hengine⟩ := outcome_serve hserve
  obtain ⟨directories, hplace, hsettings, hforce, hvalues⟩ := outcome_prepare hprepare
  rw [← hset] at hsettings hforce
  rw [hplace] at hroot
  refine ⟨members, root, directories, _, rfl, hroot, hsettings, hforce, hengine, ?_, ?_⟩
  · intro setting hguess
    rw [htoolchain]
    refine ⟨hvalues setting hguess, ?_⟩
    rw [Toolchain.get_withEnvironment _ _ hguess, firstNonEmpty_cons, firstNonEmpty_singleton]
  · intro environment result' v hother
    obtain ⟨_, _, v', hmembers, hprepare', -, -, htoolchain', -⟩ := outcome_serve hother
    cases hmembers
    have hsame : prepare { surroundings with environment } members =
        prepare surroundings members := rfl
    rw [hsame] at hprepare'
    cases hprepare.symm.trans hprepare'
    rw [htoolchain', htoolchain]

/-- A file that names the system of the compiler found last, but not its processor. -/
def definesText : List UInt8 :=
  "<CONFIG><FPCConfigs><C><RealCompiler OS='linux'/></C></FPCConfigs></CONFIG>".toList.map
    fun c => c.toNat.toUInt8

/-- A machine with a directory to search, which has one of the two files. -/
def deskHost (content : List UInt8) : Host where
  tree := ⟨[(["w"], .directory), (["c"], .directory), (["c", "fpcdefines.xml"], .file content)]⟩
  cwd := []
  environment := []
  homes := []

def deskSurroundings (content : List UInt8) : Surroundings where
  host := deskHost content
  source := .ofTable (deskHost content) []
  ideDirectories := some [⟨.root, ["c"]⟩]
  environment := [("PP", "/bin/fpc"), ("FPCDIR", "/src"), ("FPCTARGET", "win32")]
  scratchFile := "/tmp/scratch.pas"

def deskRoot : Path := ⟨.root, ["w"]⟩

/-- The client gives one directory, and nothing for the target system. -/
def deskMembers : Json.Members := [("rootUri", .text "file:///w"),
  ("initializationOptions", .object [("FPCDIR", .text "/sources"), ("FPCTARGET", .text "")])]

theorem toPath_desk : Uri.toPath "file:///w" = .ok deskRoot := by decide +kernel

theorem ofString_desk : Path.ofString "/w" = deskRoot := by decide

/-- Wherever there is such a root, the request is accepted. -/
theorem accept_of_canonical {h : Host} (hroot : h.canonical deskRoot.toString = .ok "/w") :
    outcome (accept h deskMembers) {} =
      (.ok deskRoot, { toolchain := { compilerSources := "/sources" } }) := by
  have hpath : rootPath (.text "file:///w") = .ok deskRoot := by
    rw [rootPath, if_neg (by decide), toPath_desk]
    rfl
  have hmember : Json.Value.member deskMembers "rootUri" = .text "file:///w" := rfl
  have hoptions : outcome (acceptOptions deskMembers) {} =
      (.ok (), { toolchain := { compilerSources := "/sources" } }) := rfl
  rw [accept, outcome_bind_ok _ hoptions, locateRoot, hmember, hpath]
  simp only [hroot, ofString_desk]
  rfl

theorem locate_settings_of_missing {h : Host} (hroot : h.tree.entryAt ["w"] = some .directory)
    (hmissing : h.tree.entryAt ["w", ".pasls"] = none) :
    h.locate (WorkspaceSettings.fileIn deskRoot) =
      .error (.refused .notFound (WorkspaceSettings.fileIn deskRoot).toString) := by
  have hplace : h.tree.locate [] ["w", ".pasls", "config.yml"] = .error .notFound := by
    rw [FileTree.locate, FileTree.follow_down rfl (by decide) (by decide) (by decide),
      List.nil_append, hroot]
    exact FileTree.follow_missing hroot (by decide) (by decide) (by decide) hmissing
  exact Host.locate_of_refused (by decide) hplace

section Content

variable (content : List UInt8)

theorem canonical_desk : (deskHost content).canonical deskRoot.toString = .ok "/w" := by
  have hclean : FileTree.Clean (deskHost content).tree ["w"] := .child .root (by decide) nofun
  exact Host.canonical_pathOf hclean

theorem accept_desk : outcome (accept (deskHost content) deskMembers) {} =
    (.ok deskRoot, { toolchain := { compilerSources := "/sources" } }) :=
  accept_of_canonical (canonical_desk content)

theorem locate_desk_settings : (deskHost content).locate (WorkspaceSettings.fileIn deskRoot) =
    .error (.refused .notFound (WorkspaceSettings.fileIn deskRoot).toString) :=
  locate_settings_of_missing rfl rfl

theorem load_desk (s : Session) :
    outcome (WorkspaceSettings.load (deskHost content) deskRoot) s = (.ok {}, s) := by
  have hfile : (deskHost content).isFileAt (WorkspaceSettings.fileIn deskRoot) = .ok false := by
    rw [Host.isFileAt, if_neg (by decide), if_neg (by decide), Host.isFile, Host.test, Host.entry?,
      locate_desk_settings]
    rfl
  simp [WorkspaceSettings.load, outcome_bind, hfile]

theorem readDocument_desk_options :
    readDocument (deskHost content) ⟨.root, ["c", IdeConfiguration.optionsFile]⟩ =
      .ok (.error (.unreadable .notFound)) := by
  have hmissing : (deskHost content).tree.locate [] ["c", IdeConfiguration.optionsFile] =
      .error .notFound := by
    rw [FileTree.locate, FileTree.follow_down rfl (by decide) (by decide) (by decide)]
    exact FileTree.follow_missing rfl (by decide) (by decide) (by decide) rfl
  rw [readDocument, Host.readFile, Host.entry?, Host.locate_of_refused (by decide) hmissing]

theorem readFile_desk_defines :
    (deskHost content).readFile ⟨.root, ["c", IdeConfiguration.definesFile]⟩ = .ok content := by
  have hdirectory : (deskHost content).tree.entryAt ["c"] = some .directory := rfl
  have hfile : (deskHost content).tree.entryAt ["c", "fpcdefines.xml"] = some (.file content) := rfl
  have hlocate : (deskHost content).locate ⟨.root, ["c", IdeConfiguration.definesFile]⟩ =
      .ok ["c", "fpcdefines.xml"] :=
    Host.locate_eq_ok_iff.2 ⟨by decide,
      .enter rfl (by decide) (by decide) (by decide) hdirectory (by simp)
        (.enter hdirectory (by decide) (by decide) (by decide) hfile (by simp) .done)⟩
  rw [Host.readFile, Host.entry?, hlocate]
  rfl

theorem readDocument_desk_defines {root : Xml.Element} (hparse : Xml.parse content = .ok root) :
    readDocument (deskHost content) ⟨.root, ["c", IdeConfiguration.definesFile]⟩ =
      .ok (.ok root) := by
  rw [readDocument, readFile_desk_defines]
  simp only [hparse]

theorem listing_desk : Visit.listing (deskHost content) deskRoot = .ok ([], []) := by
  have hentry : (deskHost content).tree.entryAt ["w"] = some .directory := rfl
  have hplace : (deskHost content).locate deskRoot = .ok ["w"] := Host.locate_eq_ok_iff.2
    ⟨by decide, .enter rfl (by decide) (by decide) (by decide) hentry (by simp) .done⟩
  have hnames : (deskHost content).childNames deskRoot = .ok [] := by
    rw [Host.childNames, hplace]
    rfl
  have hchildren : ∀ ask, (deskHost content).childrenWhere ask deskRoot = .ok [] := by
    intro ask
    simp only [Host.childrenWhere, hnames, bind_eq_ok_iff]
    exact ⟨[], rfl, [], rfl, by simp [pure, Except.pure]⟩
  rw [Visit.listing, Host.manifestsIn, Host.subdirectoriesOf, hchildren, hchildren]
  rfl

theorem visits_desk : Visit.all (deskHost content) [] deskRoot = [⟨deskRoot, .ok []⟩] := by
  have hpassed : isIgnored [] deskRoot = false := by decide
  rw [Visit.all, Visit.below, listing_desk, hpassed]
  rfl

/-- There is nothing to register below the root. -/
theorem exists_scan_desk (source : ManifestSource) (s : Session)
    (hs : s.settings.ignoredNames = []) :
    ∃ t, outcome (scan (deskHost content) source deskRoot) s = (.ok (), t) := by
  have hresolve : outcome (Workspace.resolveBelow (deskHost content) source
      s.settings.ignoredNames deskRoot) s.workspace = (.ok 0, s.workspace) := by
    rw [hs, Workspace.resolveBelow, visits_desk]
    rfl
  have hrepair : outcome (Workspace.repairBelow (deskHost content) source
      s.settings.ignoredNames deskRoot) s.workspace = (.ok 0, s.workspace) := by
    rw [hs, Workspace.repairBelow, visits_desk]
    rfl
  obtain ⟨x, hvisit⟩ : ∃ x, outcome (Workspace.publishVisit (deskHost content) source
      ⟨deskRoot, .ok []⟩) s.workspace = (.ok (), x) := by
    simp only [Workspace.publishVisit, outcome_bind, Workspace.outcome_report, canonical_desk,
      outcome_ofPathResult_ok]
    exact ⟨_, rfl⟩
  have hpublish : outcome (Workspace.publishBelow (deskHost content) source
      s.settings.ignoredNames deskRoot) s.workspace = (.ok (), x) := by
    rw [hs, Workspace.publishBelow, visits_desk]
    exact outcome_bind_ok _ hvisit
  obtain ⟨t, hok, -⟩ := scan_of_walks s hresolve hrepair hpublish
  exact ⟨t, hok⟩

theorem exists_serve_desk {root : Xml.Element} (hparse : Xml.parse content = .ok root) :
    ∃ t, outcome (serve (deskSurroundings content) (.object deskMembers)) {} =
      (.ok capabilities, t) := by
  have hread : ∀ directory ∈ [(⟨.root, ["c"]⟩ : Path)],
      ∀ file ∈ [IdeConfiguration.optionsFile, IdeConfiguration.definesFile],
        ∃ found, readDocument (deskHost content) (directory.child file) = .ok found := by
    simp only [List.forall_mem_cons, List.not_mem_nil, false_implies, implies_true, and_true]
    exact ⟨⟨_, readDocument_desk_options content⟩, _, readDocument_desk_defines content hparse⟩
  have hprepare : ∀ s, ∃ t, outcome (prepareToolchain (deskSurroundings content) deskRoot) s =
      (.ok (), t) := by
    intro s
    obtain ⟨filled, u, hfill⟩ := IdeConfiguration.exists_outcome_fill hread s
    obtain ⟨v, hmissing, -⟩ := outcome_reportMissing u
    simp only [prepareToolchain, ideDirectories, deskSurroundings, outcome_bind, outcome_get,
      outcome_pure, hfill, hmissing, outcome_modify]
    exact ⟨_, rfl⟩
  obtain ⟨u, hu⟩ := hprepare
    { toolchain := { compilerSources := "/sources" }, root := some deskRoot }
  obtain ⟨_, _, -, ⟨_, hkept⟩, -⟩ := outcome_prepareToolchain hu
  obtain ⟨w, hstart⟩ := outcome_startEngine (deskSurroundings content).environment u
  obtain ⟨t, hscan⟩ := exists_scan_desk content (deskSurroundings content).source
    { u with
      workspace := w
      engine := some (u.toolchain.withEnvironment (deskSurroundings content).environment)
      sortsForHistory := true
      sortsForScope := true } (by rw [hkept]; rfl)
  exact ⟨t, (outcome_bind_ok _ (accept_desk content)).trans <|
    (outcome_bind_ok _ (outcome_modify _ _)).trans <|
    (outcome_bind_ok _ (load_desk content _)).trans <|
    (outcome_bind_ok _ (outcome_modify _ _)).trans <| (outcome_bind_ok _ hu).trans <|
    (outcome_bind_ok _ hstart).trans <| (outcome_bind_ok _ (outcome_modify _ _)).trans <|
    outcome_bind_ok _ hscan⟩

theorem valueIn_desk_compiler :
    IdeConfiguration.valueIn (deskHost content) .compiler ⟨.root, ["c"]⟩ = "" := by
  have hoptions : IdeConfiguration.root? (deskHost content)
      ⟨.root, ["c", IdeConfiguration.optionsFile]⟩ = none := by
    rw [IdeConfiguration.root?, readDocument_desk_options]
  have hpath : Path.child ⟨.root, ["c"]⟩ IdeConfiguration.optionsFile =
      ⟨.root, ["c", IdeConfiguration.optionsFile]⟩ := rfl
  rw [IdeConfiguration.valueIn, IdeConfiguration.optionIn, hpath, hoptions]
  rfl

theorem valueIn_desk_targetOs {root : Xml.Element} (hparse : Xml.parse content = .ok root)
    (htag : root.tag = "CONFIG") :
    IdeConfiguration.valueIn (deskHost content) .targetOs ⟨.root, ["c"]⟩ =
      Xml.childValue ((root.child? "FPCConfigs").bind (·.children.head?)) "RealCompiler" "OS" := by
  have hdefines : IdeConfiguration.root? (deskHost content)
      ⟨.root, ["c", IdeConfiguration.definesFile]⟩ = some root := by
    simp only [IdeConfiguration.root?, readDocument_desk_defines content hparse, htag, if_true]
  have hpath : Path.child ⟨.root, ["c"]⟩ IdeConfiguration.definesFile =
      ⟨.root, ["c", IdeConfiguration.definesFile]⟩ := rfl
  rw [IdeConfiguration.valueIn, IdeConfiguration.targetIn, hpath, hdefines]
  rfl

end Content

theorem exists_parse_definesText : ∃ root, Xml.parse definesText = .ok root ∧
    root.tag = "CONFIG" ∧ Xml.childValue ((root.child? "FPCConfigs").bind (·.children.head?))
      "RealCompiler" "OS" = "linux" := by
  have hparse : (match Xml.parse definesText with
      | .ok root => decide (root.tag = "CONFIG" ∧ Xml.childValue
        ((root.child? "FPCConfigs").bind (·.children.head?)) "RealCompiler" "OS" = "linux")
      | .error _ => false) = true := by decide +kernel
  split at hparse
  · next root hroot => exact ⟨root, hroot, of_decide_eq_true hparse⟩
  · cases hparse

/-- The directory of the client, the system in the file and the compiler of the environment come
together in the engine. -/
theorem toolchain_precedence_desk : ∃ t engine,
    outcome (serve (deskSurroundings definesText) (.object deskMembers)) {} =
      (.ok capabilities, t) ∧ t.engine = some engine ∧
    t.toolchain.compilerSources = "/sources" ∧ t.toolchain.targetOs = "linux" ∧
    t.toolchain.compiler = "" ∧ engine.compiler = "/bin/fpc" := by
  obtain ⟨root, hparse, htag, hsystem⟩ := exists_parse_definesText
  generalize definesText = content at hparse ⊢
  obtain ⟨t, hserve⟩ := exists_serve_desk content hparse
  obtain ⟨_, _, directories, engine, hmembers, -, -, hforce, hengine, hvalues, -⟩ :=
    toolchain_precedence hserve
  obtain rfl := Json.Value.object.inj hmembers
  obtain rfl : directories = [⟨.root, ["c"]⟩] :=
    List.map_injective_iff.2 (fun _ _ => Except.ok.inj) (hforce.eq_of_given rfl)
  have hsources := (hvalues .compilerSources (by decide)).1
  have hos := (hvalues .targetOs (by decide)).1
  obtain ⟨hnone, hcompiler⟩ := hvalues .compiler (by decide)
  rw [firstNonEmpty_cons, if_neg (by decide)] at hsources
  rw [firstNonEmpty_cons, if_pos (by decide), List.map_singleton, firstNonEmpty_singleton] at hos
  rw [firstNonEmpty_cons, if_pos (by decide), List.map_singleton, firstNonEmpty_singleton] at hnone
  have hempty : t.toolchain.get .compiler = "" := hnone.trans (valueIn_desk_compiler content)
  rw [hempty, if_pos (by decide)] at hcompiler
  exact ⟨t, engine, hserve, hengine, hsources,
    hos.trans ((valueIn_desk_targetOs content hparse htag).trans (congrArg _ hsystem)), hempty,
    hcompiler⟩

end Handshake

end PascalWorkspace
