import PascalWorkspace.Proofs.Session.Toolchain
import PascalWorkspace.Proofs.Walk.Failing

/-! A request that is rejected has done nothing but take over options of the client: it is rejected
before the workspace is looked at, and nothing that comes later can reject it. -/
namespace PascalWorkspace

open Operation

/-- A failure that does not reject a request. -/
def Failure.Passes (failure : Failure) : Prop := ∀ fault, failure ≠ .request fault

namespace ManifestSource

/-- No failure to read a manifest rejects a request. -/
def Passes (source : ManifestSource) : Prop :=
  ∀ key failure, source.read key = .error failure → failure.Passes

end ManifestSource

theorem passes_of_readDocument {h : Host} {path : Path} {failure : Failure}
    (hread : readDocument h path = .error failure) : failure.Passes := by
  unfold readDocument at hread
  rintro fault rfl
  split at hread
  · cases hread
  · cases hread
  · split at hread <;> cases hread

theorem passes_of_readManifest {h : Host} {path : Path} {failure : Failure}
    (hread : readManifest h path = .error failure) : failure.Passes := by
  obtain hdocument | ⟨document, -, hread⟩ := bind_eq_error_iff.1 hread
  · exact passes_of_readDocument hdocument
  · rintro fault rfl
    split at hread
    · cases hread
    · split at hread <;> cases hread

theorem ManifestSource.passes_ofHost (h : Host) : (ManifestSource.ofHost h).Passes :=
  fun _ _ hread => passes_of_readManifest hread

namespace Session

variable {expected : Failure → Prop} {source : ManifestSource} {α : Type}

theorem failsAs_report (level : Level) (reporter : Reporter) (text : String) :
    FailsAs expected (report level reporter text) :=
  triple_onWorkspace (Workspace.failsAs_report _ _ _)

theorem failsAs_startEngine (env : Environment) : FailsAs expected (startEngine env) :=
  triple_get_bind fun _ _ => triple_bind (failsAs_modify _) fun _ =>
    failsAs_report _ _ _

/-- A scan fails with what its walks fail with. -/
theorem failsAs_scan (hsource : Workspace.Covers source expected) (h : Host) (root : Path) :
    FailsAs expected (scan h source root) := by
  refine triple_get_bind fun s _ => ?_
  refine triple_bind (triple_onWorkspace (Workspace.failsAs_resolveBelow hsource _ _ _))
    fun found => triple_bind (failsAs_modify _) fun _ => ?_
  refine triple_bind (triple_onWorkspace (Workspace.failsAs_repairBelow hsource _ _ _)) fun _ => ?_
  refine triple_bind (triple_onWorkspace (Workspace.failsAs_publishBelow hsource _ _ _))
    fun _ => ?_
  exact triple_get_bind fun _ _ => failsAs_report _ _ _

end Session

open Session

namespace Handshake

variable {surroundings : Surroundings} {members : Json.Members} {s t : Session}
  {fault : RequestFault}

theorem passes_badPath (e : PathError) : (Failure.badPath e).Passes := fun _ h => nomatch h

theorem passes_brokenSettings (fault : Yaml.Fault) : (Failure.brokenSettings fault).Passes :=
  fun _ h => nomatch h

theorem failsAs_reportUnreadable {expected : Failure → Prop} (path : Path) :
    FailsAs expected (WorkspaceSettings.reportUnreadable path) :=
  triple_bind (failsAs_report _ _ _) fun _ => failsAs_pure _

theorem passes_acceptSettings (room : Nat) (path : Path) (bytes : List UInt8) :
    FailsAs Failure.Passes (WorkspaceSettings.accept room path bytes) := by
  unfold WorkspaceSettings.accept
  split
  · exact failsAs_reportUnreadable path
  · exact triple_bind (failsAs_report _ _ _) fun _ => failsAs_pure _
  · exact failsAs_pure _
  · exact triple_throw (passes_brokenSettings _)
  · split
    · exact failsAs_pure _
    · exact triple_throw (passes_brokenSettings _)

theorem passes_load (h : Host) (root : Path) :
    FailsAs Failure.Passes (WorkspaceSettings.load h root) := by
  refine triple_bind (failsAs_ofPathResult fun e _ => passes_badPath e) fun isFile => ?_
  split
  · exact failsAs_pure _
  · split
    · exact passes_acceptSettings _ _ _
    · exact failsAs_reportUnreadable _
    · exact triple_throw (passes_badPath _)

theorem passes_ideDirectories (settings : WorkspaceSettings) :
    FailsAs Failure.Passes (ideDirectories surroundings settings) := by
  unfold ideDirectories
  split
  · exact failsAs_pure _
  · exact failsAs_mapM fun _ _ => failsAs_ofPathResult fun e _ => passes_badPath e
  · exact triple_bind (triple_ofPathResult_bind (fun _ _ => failsAs_pure _)
      fun e _ => passes_badPath e) fun _ => failsAs_pure _

theorem passes_loadDocument (h : Host) (path : Path) :
    FailsAs Failure.Passes (IdeConfiguration.load h path) := by
  unfold IdeConfiguration.load
  split
  · next failure hread => exact triple_throw (passes_of_readDocument hread)
  · exact triple_bind (failsAs_report _ _ _) fun _ => failsAs_pure _
  · split
    · exact failsAs_pure _
    · exact triple_bind (failsAs_report _ _ _) fun _ => failsAs_pure _

theorem failsAs_takeValues {expected : Failure → Prop} (directory : Path)
    (values : IdeConfiguration.Values) :
    FailsAs expected (IdeConfiguration.takeValues directory values) := by
  refine failsAs_of_ok fun s => ?_
  obtain ⟨filled, t, hrun, -⟩ := IdeConfiguration.outcome_takeValues directory values s
  exact ⟨filled, t, hrun⟩

theorem passes_fill (h : Host) (candidates : List IdeConfiguration.Candidate) :
    FailsAs Failure.Passes (IdeConfiguration.fill h candidates) := by
  have hfile {read : Option Xml.Element → Option IdeConfiguration.Values} (path : Path) :
      FailsAs Failure.Passes (do return read (← IdeConfiguration.load h path)) :=
    triple_bind (passes_loadDocument h path) fun _ => failsAs_pure _
  induction candidates with
  | nil => exact failsAs_pure _
  | cons candidate rest ih =>
    refine triple_ofPathResult_bind (fun directory _ => ?_) fun e _ => passes_badPath e
    refine triple_bind (hfile _) fun _ => triple_bind (failsAs_takeValues _ _) fun _ => ?_
    refine triple_bind (hfile _) fun _ => triple_bind (failsAs_takeValues _ _) fun _ => ?_
    exact triple_bind ih fun _ => failsAs_pure _

theorem failsAs_reportMissing {expected : Failure → Prop} : FailsAs expected reportMissing := by
  refine failsAs_of_ok fun s => ?_
  obtain ⟨t, hrun, -⟩ := outcome_reportMissing s
  exact ⟨(), t, hrun⟩

theorem passes_prepareToolchain (root : Path) :
    FailsAs Failure.Passes (prepareToolchain surroundings root) := by
  refine triple_get_bind fun s _ => ?_
  refine triple_bind (passes_ideDirectories _) fun candidates => ?_
  refine triple_bind (passes_fill _ _) fun _ => triple_bind failsAs_reportMissing fun _ => ?_
  exact failsAs_modify _

/-- What a request is served with once it is accepted. -/
def serveAccepted (surroundings : Surroundings) (root : Path) : Operation Session Json.Value := do
  modify fun session => { session with root := some root }
  let settings ← WorkspaceSettings.load surroundings.host root
  modify fun session => { session with settings }
  prepareToolchain surroundings root
  Session.startEngine surroundings.environment
  modify fun session => { session with sortsForHistory := true, sortsForScope := true }
  Session.scan surroundings.host surroundings.source root
  return capabilities

/-- An accepted request is not rejected any more. -/
theorem passes_serveAccepted (hsource : surroundings.source.Passes) (root : Path) :
    FailsAs Failure.Passes (serveAccepted surroundings root) := by
  have hcovers : Workspace.Covers surroundings.source Failure.Passes :=
    ⟨passes_badPath, fun _ hrequest => (nomatch hrequest), hsource⟩
  refine triple_bind (failsAs_modify _) fun _ => ?_
  refine triple_bind (passes_load _ _) fun settings => ?_
  refine triple_bind (failsAs_modify _) fun _ => ?_
  refine triple_bind (passes_prepareToolchain root) fun _ => ?_
  refine triple_bind (failsAs_startEngine _) fun _ => ?_
  refine triple_bind (failsAs_modify _) fun _ => ?_
  refine triple_bind (failsAs_scan hcovers _ _) fun _ => failsAs_pure _

theorem serve_eq_serveAccepted : serve surroundings (.object members) =
    accept surroundings.host members >>= serveAccepted surroundings := rfl

/-- A request is rejected, if at all, when it is accepted or not. -/
theorem rejected_of_serve (hsource : surroundings.source.Passes)
    (hrun : outcome (serve surroundings (.object members)) s = (.error (.request fault), t)) :
    outcome (accept surroundings.host members) s = (.error (.request fault), t) := by
  rw [serve_eq_serveAccepted, outcome_bind] at hrun
  rcases haccept : outcome (accept surroundings.host members) s with ⟨failure | root, u⟩
  · simp only [haccept] at hrun
    obtain ⟨herror, rfl⟩ := Prod.mk.inj hrun
    rw [Except.error.inj herror]
  · simp only [haccept] at hrun
    exact absurd rfl ((passes_serveAccepted hsource root).of_outcome hrun fault)

/-- Nothing but the toolchain has changed when a request is rejected. -/
theorem exists_toolchain_of_rejected
    (hrun : outcome (accept surroundings.host members) s = (.error (.request fault), t)) :
    ∃ toolchain, t = { s with toolchain } ∧ (toolchain = s.toolchain ∨ s.toolchain.withClientOptions
      (Json.Value.member members "initializationOptions") = .ok toolchain) := by
  rw [accept, acceptOptions, bind_assoc, outcome_bind_ok _ (outcome_get s)] at hrun
  have hlocate {u : Session} (hrun : outcome (locateRoot surroundings.host members) u =
      (.error (.request fault), t)) : t = u := by
    unfold locateRoot at hrun
    split at hrun
    · exact (congrArg Prod.snd hrun).symm
    · split at hrun
      · exact (congrArg Prod.snd hrun).symm
      · cases hrun
  cases hoptions : s.toolchain.withClientOptions
      (Json.Value.member members "initializationOptions") with
  | error e =>
    simp only [hoptions] at hrun
    obtain rfl : s = t := congrArg Prod.snd hrun
    exact ⟨s.toolchain, rfl, .inl rfl⟩
  | ok toolchain =>
    simp only [hoptions] at hrun
    rw [outcome_bind_ok _ (outcome_modify _ s)] at hrun
    exact ⟨toolchain, hlocate hrun, .inr rfl⟩

/-- A text that a request gives for a setting. -/
def Gives (params : Json.Value) (setting : Setting) (value : Text.Wide) : Prop :=
  ∃ members options, params = .object members ∧
    Json.Value.member members "initializationOptions" = .object options ∧
    (setting.key?.bind fun key => options.lookup (.plain key)) = some (.text value)

/-- A request that is rejected leaves the session as it was, but for the settings of the toolchain
that the client may give. Each of these is as before or what the request gives for it. -/
theorem unchanged_of_rejected {params : Json.Value} (hsource : surroundings.source.Passes)
    (hrun : outcome (serve surroundings params) s = (.error (.request fault), t)) :
    ∃ toolchain, t = { s with toolchain } ∧
      ∀ setting, toolchain.get setting = s.toolchain.get setting ∨
        setting ∈ Setting.guessable ∧ Gives params setting (toolchain.get setting) := by
  cases params with
  | object members =>
    obtain ⟨toolchain, rfl, htoolchain⟩ :=
      exists_toolchain_of_rejected (rejected_of_serve hsource hrun)
    refine ⟨toolchain, rfl, fun setting => ?_⟩
    obtain rfl | hoptions := htoolchain
    · exact .inl rfl
    · obtain hsame | ⟨hguess, options, hmember, hgiven⟩ :=
        Toolchain.get_of_withClientOptions hoptions setting
      · exact .inl hsame
      · exact .inr ⟨hguess, members, options, rfl, hmember, hgiven⟩
  | _ =>
    obtain rfl : s = t := congrArg Prod.snd hrun
    exact ⟨s.toolchain, rfl, fun _ => .inl rfl⟩

/-- The root of the workspace is not a file, and the client gives a compiler. -/
def remoteMembers : Json.Members := [("rootUri", .text "http://host/w"),
  ("initializationOptions", .object [("PP", .text "/bin/fpc"), ("FPCTARGET", .null)])]

def remoteSession : Session where
  toolchain := { compilerSources := "/sources" }
  manifestsFound := 3

/-- A machine on which manifests are read from their files. -/
def remoteSurroundings : Surroundings :=
  { deskSurroundings [] with source := .ofHost (deskHost []) }

theorem serve_remote :
    outcome (serve remoteSurroundings (.object remoteMembers)) remoteSession =
      (.error (.request (.notFileUri "http://host/w")), { remoteSession with
        toolchain := { compiler := "/bin/fpc", compilerSources := "/sources" } }) := by
  have hmember : Json.Value.member remoteMembers "rootUri" = .text "http://host/w" := rfl
  have hpath : rootPath (.text "http://host/w") =
      .error (.request (.notFileUri "http://host/w")) := by decide +kernel
  have hlocate (s : Session) : outcome (locateRoot (deskHost []) remoteMembers) s =
      (.error (.request (.notFileUri "http://host/w")), s) := by
    rw [locateRoot, hmember, hpath]
    rfl
  have haccept : outcome (accept remoteSurroundings.host remoteMembers) remoteSession =
      (.error (.request (.notFileUri "http://host/w")), { remoteSession with
        toolchain := { compiler := "/bin/fpc", compilerSources := "/sources" } }) := hlocate _
  rw [serve_eq_serveAccepted, outcome_bind, haccept]

/-- The compiler is what the client gives for it, and the rest of the session is as before. -/
theorem unchanged_of_rejected_remote : remoteSurroundings.source.Passes ∧
    ∃ t, outcome (serve remoteSurroundings (.object remoteMembers)) remoteSession =
        (.error (.request (.notFileUri "http://host/w")), t) ∧
      t.toolchain.compiler = "/bin/fpc" ∧
      ∃ toolchain, t = { remoteSession with toolchain } ∧
        ∀ setting, toolchain.get setting = remoteSession.toolchain.get setting ∨
          setting ∈ Setting.guessable ∧
            Gives (.object remoteMembers) setting (toolchain.get setting) := by
  have hsource : remoteSurroundings.source.Passes := ManifestSource.passes_ofHost (deskHost [])
  exact ⟨hsource, _, serve_remote, rfl, unchanged_of_rejected hsource serve_remote⟩

end Handshake

end PascalWorkspace
