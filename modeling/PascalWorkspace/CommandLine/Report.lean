import PascalWorkspace.Console.Table
import PascalWorkspace.Json.Printer
import PascalWorkspace.Session

/-! What is shown of a scan: a JSON document, or a table with a line about the dependencies that are
still missing. Packages stand in the order of their names, in letters of either case. -/
namespace PascalWorkspace.CommandLine

def sortedPackages (r : Registry) : List Package :=
  r.packages.mergeSort fun a b => decide (Text.lowercase a.name ≤ Text.lowercase b.name)

/-- Adds a member to an object. A name that occurs again keeps its place and takes the later value.
-/
def putMember (members : Json.Members) (name : Text.Wide) (value : Json.Value) : Json.Members :=
  if members.any (·.1 == name) then members.map fun m => if m.1 = name then (name, value) else m
  else members ++ [(name, value)]

def targetValue (d : Dependency) : Json.Value :=
  match d.target with
  | some target => .text target
  | none => .null

def dependencyMembers (p : Package) : Json.Members :=
  p.dependencies.foldl (fun members d => putMember members d.name (targetValue d)) []

def packageValue (p : Package) : Json.Value := .object [
  ("name", .text p.name),
  ("manifest", .text p.manifest),
  ("dependencies", .object (dependencyMembers p)),
  ("unit_path", .texts p.mergedPaths.units),
  ("include_path", .texts p.mergedPaths.includes),
  ("src_path", .texts p.mergedPaths.sources)]

def unresolvedValue (u : String × String) : Json.Value :=
  .object [("package", .text u.1), ("dependency", .text u.2)]

/-- A scan as a JSON document. -/
def scanValue (root : Path) (r : Registry) : Json.Value := .object [
  ("root", .text root.toString),
  ("packages", .array ((sortedPackages r).map packageValue)),
  ("unresolved", .array (r.unresolved.map unresolvedValue))]

def dependencyCell (d : Dependency) : String :=
  if d.isResolved then d.name else s!"[red]{d.name} (missing)[/red]"

def joinLines (lines : List String) : String := "\n".intercalate lines

/-- The cells of a package, marked for the console. -/
def packageRow (p : Package) : List String :=
  let dependencies := joinLines (p.dependencies.map dependencyCell)
  [p.name, if dependencies.isEmpty then "-" else dependencies,
    joinLines p.mergedPaths.units, joinLines p.mergedPaths.includes]

/-- A scan as a table. -/
def scanTable (root : Path) (r : Registry) : Console.Table where
  title := s!"Packages under {root}"
  header := ["Package", "Dependencies", "Unit path", "Include path"]
  rows := (sortedPackages r).map packageRow

/-- The line below the table. -/
def summary (r : Registry) : String :=
  match r.unresolved.length with
  | 0 => "[green]All dependencies resolved.[/green]"
  | n => s!"[yellow]{n} unresolved dependency(ies)[/yellow]"

end PascalWorkspace.CommandLine
