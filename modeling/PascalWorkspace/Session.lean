import PascalWorkspace.Settings.Basic
import PascalWorkspace.Toolchain.Basic
import PascalWorkspace.Walk.Phases

/-! A session: the workspace, the toolchain as far as it is known, and the engine that is set up
with both. -/
namespace PascalWorkspace

structure Session where
  workspace : Workspace := {}
  /-- The toolchain as the client and the development environment give it. -/
  toolchain : Toolchain := {}
  /-- The toolchain that the engine runs with, once it has been started. -/
  engine : Option Toolchain := none
  sortsForHistory : Bool := false
  sortsForScope : Bool := false
  root : Option Path := none
  settings : WorkspaceSettings := {}
  manifestsFound : Nat := 0
  deriving Repr

namespace Session

/-- An operation on the workspace of a session. -/
def onWorkspace {α : Type} (act : Action α) : Operation Session α := do
  let s ← get
  let (result, workspace) := act.run.run s.workspace
  set { s with workspace }
  match result with
  | .ok a => return a
  | .error failure => throw failure

def report (level : Level) (reporter : Reporter) (text : String) : Operation Session Unit :=
  onWorkspace (Workspace.report level reporter text)

def orUnknown (value : Text.Wide) : Text.Wide := if value.isEmpty then "?" else value

/-- Starts the engine with the toolchain, completed from environment variables. -/
def startEngine (env : Environment) : Operation Session Unit := do
  let toolchain := (← get).toolchain.withEnvironment env
  modify fun s => { s with engine := some toolchain }
  let compiler := toolchain.compiler.quoted
  let target := s!"{orUnknown toolchain.targetOs}/{orUnknown toolchain.targetCpu}"
  let project := toolchain.projectDirectory
  report .info .engine s!"Engine initialized: compiler={compiler} target={target} project={project}"

/-- Registers, resolves, repairs and publishes all packages below a directory. -/
def scan (h : Host) (source : ManifestSource) (root : Path) : Operation Session Unit := do
  let ignored := (← get).settings.ignoredNames
  let found ← onWorkspace (Workspace.resolveBelow h source ignored root)
  modify fun s => { s with manifestsFound := found }
  let _ ← onWorkspace (Workspace.repairBelow h source ignored root)
  onWorkspace (Workspace.publishBelow h source ignored root)
  let registry := (← get).workspace.registry
  let counts := s!"{found} manifest(s), {registry.size} package(s) registered"
  let missing := registry.unresolved.length
  report .info .handshake s!"Scanned {root}: {counts}, {missing} unresolved dependency(ies)"

end Session

end PascalWorkspace
