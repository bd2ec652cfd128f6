import PascalWorkspace.Session
import PascalWorkspace.Yaml.Value

/-! Reading the configuration file of a workspace. A file that is missing, cannot be read or holds
something else sets nothing. -/
namespace PascalWorkspace

namespace WorkspaceSettings

def fileIn (root : Path) : Path := (root.child ".pasls").child "config.yml"

/-- Ends every line with a line feed alone. -/
def normalizeLines : List Char → List Char
  | '\r' :: '\n' :: rest => '\n' :: normalizeLines rest
  | '\r' :: rest => '\n' :: normalizeLines rest
  | c :: rest => c :: normalizeLines rest
  | [] => []

/-- The items of the sequence under a key. -/
def itemsOf? (l : Yaml.Loaded) (key : String) : Option (List Yaml.Item) :=
  match (l.rootValue.entry? key).map l.value with
  | some (.sequence items) => some items
  | _ => none

/-- The names that are left out; what counts as nothing names nothing. -/
def readIgnored (room : Nat) (l : Yaml.Loaded) : Except Yaml.Fault (List Text.Wide) := do
  let items := (itemsOf? l "ignore_dirs").getD []
  let names ← (items.filter l.isTrue).mapM (l.itemText room)
  return (names.map Text.Wide.lowercase).eraseDups

/-- An empty list of directories is none at all. -/
def readIdeDirectories (room : Nat) (l : Yaml.Loaded) :
    Except Yaml.Fault (Option (List Text.Wide)) :=
  match itemsOf? l "lazarus_dirs" with
  | none | some [] => .ok none
  | some items => (items.mapM (l.itemText room)).map some

def ofLoaded (room : Nat) (l : Yaml.Loaded) : Except Yaml.Fault WorkspaceSettings := do
  return { ignored := ← readIgnored room l, ideDirectories := ← readIdeDirectories room l }

/-- What a file holds: a document, or none. -/
inductive Found where
  | unreadable
  | notMapping
  | settings (l : Yaml.Loaded)
  | nothing
  | impossible (fault : Yaml.Fault)

/-- What the bytes of a file hold, with room for so many nested calls to read them. -/
def ofBytes (room : Nat) (bytes : List UInt8) : Found :=
  match Text.Utf8.decode? bytes with
  | none => .unreadable
  | some text =>
    match Yaml.load room (normalizeLines text) with
    | .error .malformed => .unreadable
    | .error (.fault fault) => .impossible fault
    | .ok none => .nothing
    | .ok (some l) =>
      if !l.rootValue.isTrue then .nothing
      else match l.rootValue with
        | .mapping _ => .settings l
        | _ => .notMapping

/-- Uses defaults in place of a file that cannot be read. -/
def reportUnreadable (path : Path) : Operation Session WorkspaceSettings := do
  Session.report .warning .settings s!"Failed to read {path}, using defaults"
  return {}

/-- What the bytes of the file at a path set. -/
def accept (room : Nat) (path : Path) (bytes : List UInt8) :
    Operation Session WorkspaceSettings := do
  match ofBytes room bytes with
  | .unreadable => reportUnreadable path
  | .notMapping =>
    Session.report .warning .settings s!"Ignoring {path}: expected a mapping"
    return {}
  | .nothing => return {}
  | .impossible fault => throw (.brokenSettings fault)
  | .settings l =>
    match ofLoaded room l with
    | .ok settings => return settings
    | .error fault => throw (.brokenSettings fault)

/-- What the file of a workspace sets. A file that the operating system does not open counts as one
that cannot be read. -/
def load (h : Host) (root : Path) : Operation Session WorkspaceSettings := do
  let path := fileIn root
  if !(← ofPathResult (h.isFileAt path)) then return {}
  match h.readFile path with
  | .ok bytes => accept h.callDepth path bytes
  | .error (.refused _ _) => reportUnreadable path
  | .error e => throw (.badPath e)

end WorkspaceSettings

end PascalWorkspace
