import PascalWorkspace.Handshake
import PascalWorkspace.Proofs.Package.Provenance
import PascalWorkspace.Proofs.Triple
import PascalWorkspace.Proofs.Walk.Phases

/-! The calls that a session serves, in any order and whether or not they fail. Each carries the
state of the machine it is made on, so that files may change in between. -/
namespace PascalWorkspace

namespace Session

open Operation

variable {α : Type} {s : Session} {R : Workspace → Workspace → Prop} [IsPreorder Workspace R]
  [Workspace.IgnoresLog R]

inductive Call where
  | register (source : ManifestSource) (path : String)
  | resolve (source : ManifestSource) (key : String)
  | repair (key : String)
  | mergePaths (key : String)
  | publish (key : String)
  | resolveBelow (h : Host) (source : ManifestSource) (ignored : List String) (directory : Path)
  | repairBelow (h : Host) (source : ManifestSource) (ignored : List String) (directory : Path)
  | publishBelow (h : Host) (source : ManifestSource) (ignored : List String) (directory : Path)
  | scan (h : Host) (source : ManifestSource) (root : Path)
  | serve (surroundings : Handshake.Surroundings) (params : Json.Value)

/-- The session after a call, which may have failed half way. -/
def perform (s : Session) : Call → Session
  | .register source path => after (onWorkspace (Workspace.register source path)) s
  | .resolve source key => after (onWorkspace (Workspace.resolve source key)) s
  | .repair key => after (onWorkspace (Workspace.repair key)) s
  | .mergePaths key => after (onWorkspace (Workspace.mergePaths key)) s
  | .publish key => after (onWorkspace (Workspace.publish key)) s
  | .resolveBelow h source ignored directory =>
    after (onWorkspace (Workspace.resolveBelow h source ignored directory)) s
  | .repairBelow h source ignored directory =>
    after (onWorkspace (Workspace.repairBelow h source ignored directory)) s
  | .publishBelow h source ignored directory =>
    after (onWorkspace (Workspace.publishBelow h source ignored directory)) s
  | .scan h source root => after (scan h source root) s
  | .serve surroundings params => after (Handshake.serve surroundings params) s

/-- The session after some calls in turn. -/
def performAll (s : Session) (calls : List Call) : Session := calls.foldl perform s

/-- Two sessions are related by their workspaces. -/
def OnWorkspace (R : Workspace → Workspace → Prop) (s t : Session) : Prop :=
  R s.workspace t.workspace

instance : IsPreorder Session (OnWorkspace R) where
  refl s := refl_of R s.workspace
  trans _ _ _ := trans_of R

/-- The registry of one session has come from that of another step by step. -/
abbrev Evolves : Session → Session → Prop :=
  OnWorkspace (Workspace.OnRegistry (Registry.Evolves .unlimited))

theorem outcome_onWorkspace (act : Action α) : outcome (onWorkspace act) s =
    ((outcome act s.workspace).1, { s with workspace := (outcome act s.workspace).2 }) := by
  have hrun : act.run.run s.workspace = outcome act s.workspace := rfl
  rcases h : outcome act s.workspace with ⟨e | a, w⟩ <;>
    simp only [onWorkspace, outcome_bind, outcome_get, outcome_set, outcome_pure, outcome_throw,
      hrun, h]

theorem triple_onWorkspace {expected : Failure → Prop} {act : Action α} {pre : Workspace → Prop}
    {post : α → Workspace → Prop} (hact : Triple expected pre act post) :
    Triple expected (fun s : Session => pre s.workspace) (onWorkspace act) fun a s =>
      post a s.workspace := by
  intro s hs
  rw [outcome_onWorkspace]
  obtain ⟨a, w, hrun, hw⟩ | ⟨failure, w, hrun, hfailure⟩ := hact s.workspace hs
  · rw [hrun]
    exact .inl ⟨a, _, rfl, hw⟩
  · rw [hrun]
    exact .inr ⟨failure, _, rfl, hfailure⟩

omit [IsPreorder Workspace R] [Workspace.IgnoresLog R] in
theorem keeps_onWorkspace {act : Action α} (h : Keeps R act) :
    Keeps (OnWorkspace R) (onWorkspace act) := by
  intro s
  rw [after, outcome_onWorkspace]
  exact h s.workspace

omit [IsPreorder Workspace R] in
theorem keeps_report (level : Level) (reporter : Reporter) (text : String) :
    Keeps (OnWorkspace R) (report level reporter text) :=
  keeps_onWorkspace (Workspace.keeps_report level reporter text)

omit [Workspace.IgnoresLog R] in
/-- A change of the session apart from its workspace. -/
theorem keeps_modify_rest {f : Session → Session} (h : ∀ s, (f s).workspace = s.workspace) :
    Keeps (OnWorkspace R) (modify f) := by
  intro s
  have hworkspace : (after (modify f) s).workspace = s.workspace := h s
  rw [OnWorkspace, hworkspace]
  exact refl_of R s.workspace

theorem keeps_startEngine (env : Environment) : Keeps (OnWorkspace R) (startEngine env) :=
  keeps_bind keeps_get fun _ =>
    keeps_bind (keeps_modify_rest fun _ => rfl) fun _ => keeps_report _ _ _

/-- A scan with something else done to the packages in place of repairs. -/
def scanWith (act : String → Action Unit) (h : Host) (source : ManifestSource) (root : Path) :
    Operation Session Unit := do
  let ignored := (← get).settings.ignoredNames
  let found ← onWorkspace (Workspace.resolveBelow h source ignored root)
  modify fun s => { s with manifestsFound := found }
  let _ ← onWorkspace (Workspace.eachBelow act h source ignored root)
  onWorkspace (Workspace.publishBelow h source ignored root)
  let registry := (← get).workspace.registry
  let counts := s!"{found} manifest(s), {registry.size} package(s) registered"
  let missing := registry.unresolved.length
  report .info .handshake s!"Scanned {root}: {counts}, {missing} unresolved dependency(ies)"

/-- A scan keeps what each of its walks keeps. -/
theorem keeps_scanWith {act : String → Action Unit} {h : Host} {source : ManifestSource}
    {root : Path} (hresolve : ∀ ignored, Keeps R (Workspace.resolveBelow h source ignored root))
    (hact : ∀ ignored, Keeps R (Workspace.eachBelow act h source ignored root))
    (hpublish : ∀ ignored, Keeps R (Workspace.publishBelow h source ignored root)) :
    Keeps (OnWorkspace R) (scanWith act h source root) :=
  keeps_bind keeps_get fun _ =>
    keeps_bind (keeps_onWorkspace (hresolve _)) fun _ =>
      keeps_bind (keeps_modify_rest fun _ => rfl) fun _ =>
        keeps_bind (keeps_onWorkspace (hact _)) fun _ =>
          keeps_bind (keeps_onWorkspace (hpublish _)) fun _ =>
            keeps_bind keeps_get fun _ => keeps_report _ _ _

theorem keeps_scan {h : Host} {source : ManifestSource} {root : Path}
    (hresolve : ∀ ignored, Keeps R (Workspace.resolveBelow h source ignored root))
    (hrepair : ∀ ignored, Keeps R (Workspace.repairBelow h source ignored root))
    (hpublish : ∀ ignored, Keeps R (Workspace.publishBelow h source ignored root)) :
    Keeps (OnWorkspace R) (scan h source root) := keeps_scanWith hresolve hrepair hpublish

/-! ### A scan that ends well -/

section Scan

variable {t : Session} {h : Host} {source : ManifestSource} {root : Path}

theorem outcome_of_onWorkspace {act : Action α} {result : Except Failure α}
    (hrun : outcome (onWorkspace act) s = (result, t)) :
    outcome act s.workspace = (result, t.workspace) := by
  rw [outcome_onWorkspace] at hrun
  obtain ⟨rfl, rfl⟩ := Prod.mk.inj hrun
  rfl

/-- What a scan that ends well goes through: a walk that registers and resolves, a walk that repairs
and a walk that merges and publishes. -/
theorem walks_of_scan (hok : outcome (scan h source root) s = (.ok (), t)) :
    ∃ found repaired v w x,
      outcome (Workspace.resolveBelow h source s.settings.ignoredNames root) s.workspace =
        (.ok found, v) ∧
      outcome (Workspace.repairBelow h source s.settings.ignoredNames root) v =
        (.ok repaired, w) ∧
      outcome (Workspace.publishBelow h source s.settings.ignoredNames root) w = (.ok (), x) ∧
      t.workspace.registry = x.registry ∧ t.workspace.defines = x.defines := by
  obtain ⟨s₀, _, hget, hnext⟩ := outcome_bind_eq_ok hok
  obtain ⟨hread, rfl⟩ := Prod.mk.inj hget
  obtain rfl := Except.ok.inj hread
  obtain ⟨found, s₁, hresolve, hnext⟩ := outcome_bind_eq_ok hnext
  obtain ⟨_, _, hcount, hnext⟩ := outcome_bind_eq_ok hnext
  obtain ⟨-, rfl⟩ := Prod.mk.inj hcount
  obtain ⟨repaired, s₂, hrepair, hnext⟩ := outcome_bind_eq_ok hnext
  obtain ⟨_, s₃, hpublish, hnext⟩ := outcome_bind_eq_ok hnext
  obtain ⟨_, _, hget, hreport⟩ := outcome_bind_eq_ok hnext
  obtain ⟨-, rfl⟩ := Prod.mk.inj hget
  have hfirst := outcome_of_onWorkspace hresolve
  have hsecond := outcome_of_onWorkspace hrepair
  have hthird := outcome_of_onWorkspace hpublish
  have hlast := outcome_of_onWorkspace hreport
  rw [Workspace.outcome_report] at hlast
  refine ⟨found, repaired, s₁.workspace, s₂.workspace, s₃.workspace, hfirst, hsecond, hthird, ?_,
    ?_⟩
  · exact (congrArg (fun result => result.2.registry) hlast).symm
  · exact (congrArg (fun result => result.2.defines) hlast).symm

/-- Three walks that end well make a scan that ends well. -/
theorem scan_of_walks (s : Session) {found repaired : Nat} {v w x : Workspace}
    (hresolve : outcome (Workspace.resolveBelow h source s.settings.ignoredNames root) s.workspace =
      (.ok found, v))
    (hrepair : outcome (Workspace.repairBelow h source s.settings.ignoredNames root) v =
      (.ok repaired, w))
    (hpublish : outcome (Workspace.publishBelow h source s.settings.ignoredNames root) w =
      (.ok (), x)) :
    ∃ t, outcome (scan h source root) s = (.ok (), t) ∧ t.workspace.registry = x.registry ∧
      t.workspace.defines = x.defines := by
  simp only [scan, outcome_bind, outcome_get, outcome_onWorkspace, hresolve, outcome_modify,
    hrepair, hpublish, report, Workspace.outcome_report]
  exact ⟨_, rfl, rfl, rfl⟩

/-- The result of an action and the registry that it leaves. -/
def reached (act : Action α) (w : Workspace) : Except Failure α × Registry :=
  match outcome act w with
  | (result, v) => (result, v.registry)

theorem outcome_of_reached {act : Action α} {w : Workspace} {a : α} {r : Registry}
    (h : reached act w = (.ok a, r)) :
    ∃ defines log, outcome act w = (.ok a, ⟨r, defines, log⟩) := by
  rcases hrun : outcome act w with ⟨result, registry, defines, log⟩
  rw [reached, hrun] at h
  obtain ⟨rfl, rfl⟩ := Prod.mk.inj h
  exact ⟨defines, log, rfl⟩

/-- Walks that end well whatever has been published and reported before. -/
theorem exists_scan (s : Session) {found repaired : Nat} {r r' r'' : Registry}
    (hresolve : reached (Workspace.resolveBelow h source s.settings.ignoredNames root) s.workspace =
      (.ok found, r))
    (hrepair : ∀ defines log,
      reached (Workspace.repairBelow h source s.settings.ignoredNames root) ⟨r, defines, log⟩ =
        (.ok repaired, r'))
    (hpublish : ∀ defines log,
      reached (Workspace.publishBelow h source s.settings.ignoredNames root) ⟨r', defines, log⟩ =
        (.ok (), r'')) :
    ∃ t, outcome (scan h source root) s = (.ok (), t) ∧ t.workspace.registry = r'' := by
  obtain ⟨defines, log, hfirst⟩ := outcome_of_reached hresolve
  obtain ⟨defines', log', hsecond⟩ := outcome_of_reached (hrepair defines log)
  obtain ⟨defines'', log'', hthird⟩ := outcome_of_reached (hpublish defines' log')
  obtain ⟨t, ht, hregistry, -⟩ := scan_of_walks s hfirst hsecond hthird
  exact ⟨t, ht, hregistry⟩

end Scan

end Session

namespace WorkspaceSettings

open Operation Session

variable {R : Workspace → Workspace → Prop} [IsPreorder Workspace R] [Workspace.IgnoresLog R]

theorem keeps_reportUnreadable (path : Path) : Keeps (OnWorkspace R) (reportUnreadable path) :=
  keeps_bind (Session.keeps_report _ _ _) fun _ => keeps_pure _

theorem keeps_accept (room : Nat) (path : Path) (bytes : List UInt8) :
    Keeps (OnWorkspace R) (accept room path bytes) := by
  unfold accept
  split
  · exact keeps_reportUnreadable path
  · exact keeps_bind (Session.keeps_report _ _ _) fun _ => keeps_pure _
  · exact keeps_pure _
  · exact keeps_throw _
  · split
    · exact keeps_pure _
    · exact keeps_throw _

theorem keeps_load (h : Host) (root : Path) : Keeps (OnWorkspace R) (load h root) := by
  refine keeps_bind (keeps_ofPathResult _) fun isFile => ?_
  split
  · exact keeps_pure _
  · split
    · exact keeps_accept _ _ _
    · exact keeps_reportUnreadable _
    · exact keeps_throw _

end WorkspaceSettings

namespace IdeConfiguration

open Operation Session

variable {R : Workspace → Workspace → Prop} [IsPreorder Workspace R] [Workspace.IgnoresLog R]

theorem keeps_load (h : Host) (path : Path) : Keeps (OnWorkspace R) (load h path) := by
  unfold load
  split
  · exact keeps_throw _
  · exact keeps_bind (Session.keeps_report _ _ _) fun _ => keeps_pure _
  · split
    · exact keeps_pure _
    · exact keeps_bind (Session.keeps_report _ _ _) fun _ => keeps_pure _

theorem keeps_takeValues (directory : Path) :
    ∀ values, Keeps (OnWorkspace R) (takeValues directory values)
  | [] => keeps_pure _
  | (setting, value) :: rest => by
    have hrest := keeps_takeValues directory rest
    refine keeps_bind keeps_get fun s => ?_
    split
    · exact keeps_bind (keeps_modify_rest fun _ => rfl) fun _ =>
        keeps_bind (Session.keeps_report _ _ _) fun _ => keeps_bind hrest fun _ => keeps_pure _
    · exact hrest

theorem keeps_fill (h : Host) : ∀ candidates, Keeps (OnWorkspace R) (fill h candidates)
  | [] => keeps_pure _
  | _ :: rest =>
    keeps_bind (keeps_ofPathResult _) fun directory =>
      keeps_bind (keeps_bind (keeps_load h _) fun _ => keeps_pure _) fun _ =>
        keeps_bind (keeps_takeValues directory _) fun _ =>
          keeps_bind (keeps_bind (keeps_load h _) fun _ => keeps_pure _) fun _ =>
            keeps_bind (keeps_takeValues directory _) fun _ =>
              keeps_bind (keeps_fill h rest) fun _ => keeps_pure _

end IdeConfiguration

namespace Handshake

open Operation Session

variable {h : Host} {surroundings : Surroundings} {R : Workspace → Workspace → Prop}
  [IsPreorder Workspace R] [Workspace.IgnoresLog R]

omit [Workspace.IgnoresLog R] in
theorem keeps_accept (members : Json.Members) :
    Keeps (OnWorkspace R) (accept h members) := by
  refine keeps_bind (keeps_bind keeps_get fun s => ?_) fun _ => ?_
  · split
    · exact keeps_throw _
    · exact keeps_modify_rest fun _ => rfl
  · unfold locateRoot
    split
    · exact keeps_throw _
    · split
      · exact keeps_throw _
      · exact keeps_pure _

omit [Workspace.IgnoresLog R] in
theorem keeps_ideDirectories (settings : WorkspaceSettings) :
    Keeps (OnWorkspace R) (ideDirectories surroundings settings) := by
  unfold ideDirectories
  split
  · exact keeps_pure _
  · exact keeps_mapM (fun _ => keeps_ofPathResult _) _
  · exact keeps_bind (keeps_bind (keeps_ofPathResult _) fun _ => keeps_pure _) fun _ => keeps_pure _

theorem keeps_reportMissing : Keeps (OnWorkspace R) reportMissing := by
  refine keeps_bind keeps_get fun s => ?_
  dsimp only
  split
  · exact keeps_pure _
  · exact Session.keeps_report _ _ _

theorem keeps_prepareToolchain (root : Path) :
    Keeps (OnWorkspace R) (prepareToolchain surroundings root) :=
  keeps_bind keeps_get fun _ =>
    keeps_bind (keeps_ideDirectories _) fun _ =>
      keeps_bind (IdeConfiguration.keeps_fill _ _) fun _ =>
        keeps_bind keeps_reportMissing fun _ => keeps_modify_rest fun _ => rfl

/-- Serves a request with something else in place of the scan. -/
def serveWith (scan : Host → ManifestSource → Path → Operation Session Unit) (s : Surroundings) :
    Json.Value → Operation Session Json.Value
  | .object members => do
    let root ← accept s.host members
    modify fun session => { session with root := some root }
    let settings ← WorkspaceSettings.load s.host root
    modify fun session => { session with settings }
    prepareToolchain s root
    Session.startEngine s.environment
    modify fun session => { session with sortsForHistory := true, sortsForScope := true }
    scan s.host s.source root
    return capabilities
  | _ => throw (.request .paramsNotObject)

/-- A request keeps what a scan keeps. -/
theorem keeps_serveWith {scan : Host → ManifestSource → Path → Operation Session Unit}
    (hscan : ∀ h source root, Keeps (OnWorkspace R) (scan h source root)) (params : Json.Value) :
    Keeps (OnWorkspace R) (serveWith scan surroundings params) := by
  unfold serveWith
  split
  · exact keeps_bind (keeps_accept _) fun root =>
      keeps_bind (keeps_modify_rest fun _ => rfl) fun _ =>
        keeps_bind (WorkspaceSettings.keeps_load _ _) fun _ =>
          keeps_bind (keeps_modify_rest fun _ => rfl) fun _ =>
            keeps_bind (keeps_prepareToolchain root) fun _ =>
              keeps_bind (keeps_startEngine _) fun _ =>
                keeps_bind (keeps_modify_rest fun _ => rfl) fun _ =>
                  keeps_bind (hscan _ _ root) fun _ => keeps_pure _
  · exact keeps_throw _

theorem keeps_serve (hscan : ∀ h source root, Keeps (OnWorkspace R) (scan h source root))
    (params : Json.Value) : Keeps (OnWorkspace R) (serve surroundings params) :=
  keeps_serveWith hscan params

end Handshake

end PascalWorkspace
