import PascalWorkspace.Settings.Reading
import PascalWorkspace.Toolchain.IdeConfiguration

/-! The initialize request: it names a workspace, gives options, and is answered with what the
server can do once the workspace has been scanned. A request that is rejected scans nothing. -/
namespace PascalWorkspace

namespace Handshake

def serverName : String := "Pascal Language Server"

/-- What the server offers to a client. -/
def capabilities : Json.Value := .object [
  ("serverInfo", .object [("name", .text serverName)]),
  ("capabilities", .object [
    ("textDocumentSync", .object [("openClose", .bool true), ("change", .integer 1)]),
    ("completionProvider", .object [
      ("triggerCharacters", .null),
      ("allCommitCharacters", .null),
      ("resolveProvider", .bool false)]),
    ("signatureHelpProvider", .object [
      ("triggerCharacters", .texts ["(", ","]),
      ("retriggerCharacters", .texts [])]),
    ("declarationProvider", .bool true),
    ("definitionProvider", .bool true)]),
  ("workspaceFolders", .bool true)]

def ofUriError (uri : Text.Wide) : UriError → Failure
  | .malformed => .malformedUri
  | .notFile => .request (.notFileUri uri)
  | .remoteHost => .request (.remoteHost uri)
  | .notAbsolute => .request (.noAbsolutePath uri)
  | .unusable e => .badPath e

/-- The directory that the URI of a request names. -/
def rootPath : Json.Value → Except Failure Path
  | .text uri =>
    if uri.isEmpty then .error (.request .uriMissing)
    else (Uri.toPath uri).mapError (ofUriError uri)
  | _ => .error (.request .uriMissing)

/-- A directory that cannot be resolved makes the request invalid; a name that no path can hold is
another matter. -/
def ofRootError : PathError → Failure
  | .holdsNul => .badPath .holdsNul
  | .unencodable => .badPath .unencodable
  | e => .request (.unresolvableRoot e)

/-- The part of the surroundings that a request can be served in. -/
structure Surroundings where
  host : Host
  source : ManifestSource
  /-- Directories to search in place of all others for the configuration of the environment. -/
  ideDirectories : Option (List Path) := none
  /-- The environment of the engine. -/
  environment : Environment
  /-- The path of a file that does not exist yet. -/
  scratchFile : String

/-- The directories to search: those given, else those set for the workspace, else the usual ones.
-/
def ideDirectories (s : Surroundings) (settings : WorkspaceSettings) :
    Operation Session (List IdeConfiguration.Candidate) :=
  match s.ideDirectories, settings.ideDirectories with
  | some directories, _ => return directories.map .ok
  | none, some texts => texts.mapM fun text =>
    ofPathResult (IdeConfiguration.candidateNamed s.host text)
  | none, none => do return (← IdeConfiguration.directoriesOf s.host).map .ok

/-- Takes the options of the client. -/
def acceptOptions (members : Json.Members) : Operation Session Unit := do
  match (← get).toolchain.withClientOptions (Json.Value.member members "initializationOptions") with
  | .error fault => throw (.request fault)
  | .ok toolchain => modify fun s => { s with toolchain }

/-- The root of the workspace, in the spelling of the walk. -/
def locateRoot (host : Host) (members : Json.Members) : Operation Session Path :=
  match rootPath (Json.Value.member members "rootUri") with
  | .error failure => throw failure
  | .ok path =>
    match host.canonical path.toString with
    | .error e => throw (ofRootError e)
    | .ok text => return Path.ofString text

/-- Takes what the request holds: the options of the client, then the root of the workspace. -/
def accept (host : Host) (members : Json.Members) : Operation Session Path := do
  acceptOptions members
  locateRoot host members

/-- Reports the settings that are still not known. -/
def reportMissing : Operation Session Unit := do
  let missing := (← get).toolchain.missing
  if missing.isEmpty then pure ()
  else
    let names := ", ".intercalate (missing.map (·.name))
    Session.report .info .handshake s!"No value for toolchain setting(s): {names}"

/-- Fills the toolchain from all that is known about the workspace. -/
def prepareToolchain (s : Surroundings) (root : Path) : Operation Session Unit := do
  let directories ← ideDirectories s (← get).settings
  let _ ← IdeConfiguration.fill s.host directories
  reportMissing
  modify fun session => { session with toolchain := { session.toolchain with
    projectDirectory := root.toString
    scratchFile := s.scratchFile } }

/-- Serves an initialize request. -/
def serve (s : Surroundings) : Json.Value → Operation Session Json.Value
  | .object members => do
    let root ← accept s.host members
    modify fun session => { session with root := some root }
    let settings ← WorkspaceSettings.load s.host root
    modify fun session => { session with settings }
    prepareToolchain s root
    Session.startEngine s.environment
    modify fun session => { session with sortsForHistory := true, sortsForScope := true }
    Session.scan s.host s.source root
    return capabilities
  | _ => throw (.request .paramsNotObject)

end Handshake

end PascalWorkspace
