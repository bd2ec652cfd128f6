import PascalWorkspace.FileTree.Canonical
import PascalWorkspace.Host.PathError

/-! The machine that a scan runs on: its file tree, its working directory and its environment. -/
namespace PascalWorkspace

inductive Platform where
  | posix
  | windows
  deriving DecidableEq, Repr

/-- The value of each environment variable; the first entry of a name counts. -/
abbrev Environment := List (String × String)

def Environment.get? (env : Environment) (name : String) : Option String :=
  (env.find? (·.1 == name)).map (·.2)

def Environment.getD (env : Environment) (name fallback : String) : String :=
  (env.get? name).getD fallback

structure Host where
  tree : FileTree
  /-- The working directory, free of links. -/
  cwd : Location
  environment : Environment
  /-- The home directory of each user. -/
  homes : List (String × String)
  platform : Platform := .posix
  /-- How many calls the reader of a document can nest before it is broken off. -/
  callDepth : Nat := 970

namespace Host

def holdsNul (p : Path) : Bool := p.parts.any (·.toList.contains '\x00')

def start (h : Host) (p : Path) : Location := if p.isAbsolute then [] else h.cwd

/-- Where a path leads when every link is followed. -/
def locate (h : Host) (p : Path) : Except PathError Location :=
  if holdsNul p then .error .holdsNul
  else match h.tree.locate (h.start p) p.parts with
    | .ok loc => .ok loc
    | .error e => .error (.refused e p.toString)

def entry? (h : Host) (p : Path) : Except PathError Entry :=
  match h.locate p with
  | .error e => .error e
  | .ok loc => .ok ((h.tree.entryAt loc).getD .directory)

/-- Asks a question about the entry at a path. A path that names nothing answers no. -/
def test (h : Host) (ask : Entry → Bool) (p : Path) : Except PathError Bool :=
  match h.entry? p with
  | .ok entry => .ok (ask entry)
  | .error .holdsNul => .ok false
  | .error (.refused e path) => if e.meansAbsent then .ok false else .error (.refused e path)
  | .error e => .error e

def isFile (h : Host) (p : Path) : Except PathError Bool := h.test Entry.isFile p

def isDirectory (h : Host) (p : Path) : Except PathError Bool := h.test Entry.isDirectory p

/-- The length of a path, in bytes, from which on the operating system does not take it. -/
def maxPathBytes : Nat := 4096

/-- Whether there is a file at a path that can have any length. The names of a directory are asked
about as they are listed; their paths are taken to be short enough. -/
def isFileAt (h : Host) (p : Path) : Except PathError Bool :=
  if holdsNul p then .ok false
  else if maxPathBytes ≤ p.toString.utf8ByteSize then .error (.refused .nameTooLong p.toString)
  else h.isFile p

/-- Whether a path itself names a link. -/
def isLink (h : Host) (p : Path) : Bool :=
  match h.locate p.parent with
  | .error _ => false
  | .ok loc => match h.tree.entryAt (loc ++ [p.name]) with | some (.link _) => true | _ => false

def readFile (h : Host) (p : Path) : Except PathError (List UInt8) :=
  match h.entry? p with
  | .error e => .error e
  | .ok (.file content) => .ok content
  | .ok .closedFile | .ok .closedDirectory => .error (.refused .denied p.toString)
  | .ok _ => .error (.refused .isDirectory p.toString)

/-- The names in a directory, in enumeration order. -/
def childNames (h : Host) (p : Path) : Except PathError (List String) :=
  match h.locate p with
  | .error e => .error e
  | .ok loc =>
    if h.tree.entryAt loc = some .directory then .ok (h.tree.childNames loc)
    else .error (.refused (h.tree.refusalAt loc) p.toString)

def dropSlashEnd (cs : List Char) : List Char := (cs.reverse.dropWhile (· = '/')).reverse

/-- The home directory that a leading component such as `~` or `~user` stands for. -/
def homeFor (h : Host) (tilde : String) : Option String :=
  match tilde.toList with
  | ['~'] => h.environment.get? "HOME" <|> h.homes.lookup "root"
  | '~' :: user => h.homes.lookup (String.ofList user)
  | _ => none

/-- Replaces a leading tilde component by a home directory. -/
def expandHome (h : Host) (p : Path) : Except PathError Path :=
  match p.anchor, p.parts with
  | .relative, first :: rest =>
    if first.toList.head? ≠ some '~' then .ok p
    else if first.toList.contains '\x00' then .error .holdsNul
    else match h.homeFor first with
      | none => .error .homeUnknown
      | some home =>
        let trimmed := String.ofList (dropSlashEnd home.toList)
        let text := if trimmed = "" then "/" else trimmed
        if text.toList.head? = some '~' then .error .homeUnknown
        else .ok ((Path.ofString text).join ⟨.relative, rest⟩)
  | _, _ => .ok p

/-- The home directory of the user. -/
def home (h : Host) : Except PathError Path := h.expandHome (Path.ofString "~")

/-- The absolute form of a path with its links replaced. A link that leads back to itself is an
error, a name that does not exist is not. -/
def resolve (h : Host) (p : Path) : Except PathError Path :=
  if holdsNul p then .error .holdsNul
  else
    let result := h.tree.canonicalPath h.cwd p
    match h.tree.locate [] result.parts with
    | .error .tooManyLinks => .error (.linkLoop result.toString)
    | _ => .ok result

/-- The one spelling under which a file is known. -/
def canonical (h : Host) (text : String) : Except PathError String := do
  let expanded ← h.expandHome (Path.ofString text)
  let resolved ← h.resolve expanded
  return resolved.toString

end Host

end PascalWorkspace
