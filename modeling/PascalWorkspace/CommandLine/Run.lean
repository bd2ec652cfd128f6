import PascalWorkspace.CommandLine.Arguments
import PascalWorkspace.CommandLine.Report
import PascalWorkspace.Handshake

/-! Running the command on a host. -/
namespace PascalWorkspace.CommandLine

def versionText : String := "pasls, version 0.3.0\n"

/-- What the command prints. -/
inductive Output where
  | text (s : String)
  | table (t : Console.ShownTable) (summary : String)
  deriving Repr

inductive Outcome where
  /-- The arguments are not understood. -/
  | usageError
  | finished (exitCode : Nat) (output : Output) (diagnostics : String)
  /-- The command ends early, with nothing printed. -/
  | failed (failure : Failure) (diagnostics : String)
  deriving Repr

/-- What a path as written names. A slash at its end asks for a directory. -/
def entryNamed (h : Host) (text : String) : Except PathError Entry :=
  if text.toList.contains '\x00' then .error .holdsNul
  else if text.isEmpty then .error (.refused .notFound text)
  else
    let start := if FileTree.isRooted text then [] else h.cwd
    match h.tree.locate start (FileTree.targetSteps text) with
    | .error e => .error (.refused e text)
    | .ok loc => .ok ((h.tree.entryAt loc).getD .directory)

inductive RootCheck where
  | accepted
  | rejected
  | failed (error : PathError)
  deriving DecidableEq, Repr

/-- Whether a path can be the root of a workspace. It must not be a file, and if it is there it must
not be closed. -/
def checkRoot (h : Host) (mustExist : Bool) (text : String) : RootCheck :=
  match entryNamed h text with
  | .ok (.file _) | .ok .closedFile | .ok .closedDirectory => .rejected
  | .ok _ => .accepted
  | .error .holdsNul => .failed .holdsNul
  | .error _ => if mustExist then .rejected else .accepted

def diagnostics (log : Log) (least : Level) : String :=
  String.join ((log.lines least).map (· ++ "\n"))

def rejection (fault : RequestFault) : Json.Value := .object [
  ("error", .object [("code", .integer invalidParams), ("message", .text fault.message)])]

/-- Ends a command: a rejected request is reported, any other failure is passed on. -/
def outcome (least : Level) (r : Except Failure Output × Session) : Outcome :=
  let shown := diagnostics r.2.workspace.log least
  match r.1 with
  | .ok output => .finished 0 output shown
  | .error (.request fault) =>
    .finished 1 (.text "") (shown ++ Json.write Json.Style.line (rejection fault) ++ "\n")
  | .error failure => .failed failure shown

def rendered {α : Type} : Except Console.MarkupFault α → Operation Session α
  | .ok a => return a
  | .error fault => throw (.brokenMarkup fault)

/-- Scans a workspace and shows its packages. -/
def scan (h : Host) (text : String) (json : Bool) : Operation Session Output := do
  let root ← ofPathResult (h.resolve (Path.ofString text))
  let settings ← WorkspaceSettings.load h root
  modify fun s => { s with root := some root, settings }
  Session.scan h (ManifestSource.ofHost h) root
  let registry := (← get).workspace.registry
  if json then
    return .text (Json.write Json.Style.block (scanValue root registry) ++ "\n")
  else
    let table ← rendered (scanTable root registry).render
    return .table table (← rendered (Console.render (summary registry)))

/-- Serves an initialize request for a workspace. -/
def handshake (h : Host) (scratchFile text : String) (rootUri : Option String)
    (options : List (Setting × String)) : Operation Session Output := do
  let uri ← match rootUri with
    | some uri => pure uri
    | none => do
      let root ← ofPathResult (h.resolve (Path.ofString text))
      pure (Uri.ofPath root)
  let members : Json.Members :=
    options.filterMap fun o => o.1.key?.map fun key => (.plain key, .text o.2)
  let surroundings : Handshake.Surroundings :=
    { host := h, source := ManifestSource.ofHost h, environment := h.environment, scratchFile }
  let result ← Handshake.serve surroundings
    (.object [("rootUri", .text uri), ("initializationOptions", .object members)])
  return .text (Json.write Json.Style.blockAscii (.object [("result", result)]) ++ "\n")

def checked (check : RootCheck) (least : Level) (act : Operation Session Output) : Outcome :=
  match check with
  | .rejected => .usageError
  | .failed e => .failed (.badPath e) ""
  | .accepted => outcome least (act.run.run {})

/-- Runs the command with arguments. -/
def run (h : Host) (scratchFile : String) (args : List String) : Outcome :=
  match request? args with
  | none => .usageError
  | some .version => .finished 0 (.text versionText) ""
  | some (.run least (.scan root json)) => checked (checkRoot h true root) least (scan h root json)
  | some (.run least (.handshake root rootUri options)) =>
    checked (checkRoot h false root) least (handshake h scratchFile root rootUri options)

end PascalWorkspace.CommandLine
