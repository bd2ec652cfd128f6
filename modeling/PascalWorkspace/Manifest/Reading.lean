import PascalWorkspace.Failure
import PascalWorkspace.Text.Blank
import PascalWorkspace.Xml.Document

/-! Reading a manifest. Search paths are made absolute from the directory of the manifest; entries
with an unexpanded macro are kept as written. A hint that names a directory stands for the package
file in it. -/
namespace PascalWorkspace

namespace Manifest

/-- Whether a text holds an unexpanded macro. -/
def hasMacro : List Char → Bool
  | '$' :: '(' :: _ => true
  | _ :: rest => hasMacro rest
  | [] => false

def forwardSlashes (cs : List Char) : List Char := cs.map fun c => if c = '\\' then '/' else c

/-- The entry of a search path list that a piece of text stands for; a blank piece is none. -/
def searchEntry (h : Host) (base : Path) (piece : List Char) :
    Except PathError (Option String) :=
  let entry := Text.trimBlank piece
  if entry.isEmpty then .ok none
  else if hasMacro entry then .ok (some (String.ofList entry))
  else do
    let resolved ← h.resolve (base.child (String.ofList (forwardSlashes entry)))
    return some resolved.toString

def searchEntries (h : Host) (base : Path) : List (List Char) → Except PathError (List String)
  | [] => .ok []
  | piece :: rest => do
    let entry ← searchEntry h base piece
    let entries ← searchEntries h base rest
    return entry.toList ++ entries

/-- The entries of a list written with semicolons between them. -/
def splitSearchPath (h : Host) (base : Path) (raw : String) : Except PathError (List String) :=
  searchEntries h base (Path.splitChars ';' raw.toList)

/-- The directory of the manifest itself comes first among the unit and the include paths. -/
def readSearchPaths (h : Host) (base : Path) (options : Option Xml.Element) :
    Except PathError SearchPaths := do
  let paths := options.bind (·.child? "SearchPaths")
  let read (tag : String) := splitSearchPath h base (Xml.childValue paths tag "Value")
  let includes ← read "IncludeFiles"
  let units ← read "OtherUnitFiles"
  let sources ← read "SrcPath"
  let own := base.toString
  return { units := own :: units, includes := own :: includes, sources }

def packageSuffix : String := ".lpk"

/-- The first package file of a directory by name. -/
def firstPackage (names : List String) : Option String :=
  ((names.filter fun name => (Path.mk .relative [name]).extension == packageSuffix).mergeSort
    (fun a b => decide (a ≤ b))).head?

/-- The package file in a directory: the one named after the package, else the first one. -/
def packageIn (h : Host) (directory : Path) (name : String) : Except PathError String := do
  let candidate := directory.child (name ++ packageSuffix)
  if ← h.isFile candidate then return candidate.toString
  else
    match firstPackage (← h.childNames directory) with
    | some found => return (directory.child found).toString
    | none => return ""

def resolveHint (h : Host) (base : Path) (name raw : String) : Except PathError String :=
  if raw.isEmpty || hasMacro raw.toList then .ok ""
  else do
    let hint ← h.resolve (base.child (String.ofList (forwardSlashes raw.toList)))
    if ← h.isDirectory hint then packageIn h hint name else return hint.toString

/-- The requirement that an item states; an item without a package name states none. -/
def readRequirement (h : Host) (base : Path) (item : Xml.Element) :
    Except PathError (Option Requirement) :=
  let name := Xml.childValue (some item) "PackageName" "Value"
  if !"Item".toList.isPrefixOf item.tag.toList || name.isEmpty then .ok none
  else do
    let file := item.child? "DefaultFilename"
    let raw := (file.map (·.value "Value")).getD ""
    let prefer := (file.map fun e => Text.lowercase (e.value "Prefer") == "true").getD false
    return some { name, hint := ← resolveHint h base name raw, prefer }

def readRequirements (h : Host) (base : Path) :
    List Xml.Element → Except PathError (List Requirement)
  | [] => .ok []
  | item :: rest => do
    let requirement ← readRequirement h base item
    let requirements ← readRequirements h base rest
    return requirement.toList ++ requirements

/-- The parts of a manifest document in which its data stand. -/
structure Sections where
  name : String
  options : Option Xml.Element
  required : Option Xml.Element

def sections (kind : Option ManifestKind) (root : Xml.Element) : Except ManifestFault Sections :=
  match kind with
  | some .package =>
    match root.child? "Package" with
    | none => .error .noPackageSection
    | some package => .ok {
        name := Xml.childValue (some package) "Name" "Value"
        options := package.child? "CompilerOptions"
        required := package.child? "RequiredPkgs" }
  | some .project =>
    let project := root.child? "ProjectOptions"
    .ok {
      name := Xml.childValue project "Title" "Value"
      options := root.child? "CompilerOptions"
      required := project.bind (·.child? "RequiredPackages") }
  | none => .error .unknownKind

def readPaths (h : Host) (base : Path) (s : Sections) :
    Except PathError (SearchPaths × List Requirement) := do
  let paths ← readSearchPaths h base s.options
  let requirements ← readRequirements h base ((s.required.map (·.children)).getD [])
  return (paths, requirements)

/-- The data of a document that lies at a path. -/
def ofDocument (h : Host) (path : Path) (root : Xml.Element) : Except ManifestFault Manifest :=
  if root.tag ≠ "CONFIG" then .error (.unexpectedRoot root.tag)
  else do
    let found ← sections (ManifestKind.ofExtension path.extension) root
    match readPaths h path.parent found with
    | .error e => .error (.unresolvable e)
    | .ok (paths, requirements) => return {
        name := if found.name.isEmpty then path.stem else found.name
        directory := path.parent.toString
        paths, requirements }

end Manifest

/-- The document in a file. -/
def readDocument (h : Host) (path : Path) : Except Failure (Except ManifestFault Xml.Element) :=
  match h.readFile path with
  | .error (.refused e _) => .ok (.error (.unreadable e))
  | .error e => .error (.badPath e)
  | .ok bytes =>
    match Xml.parse bytes with
    | .ok root => .ok (.ok root)
    | .error .notWellFormed => .ok (.error .notWellFormed)
    | .error .unknownEncoding => .error .unknownEncoding
    | .error .multiByteEncoding => .error .multiByteEncoding

/-- Reads the package or project file at a path. -/
def readManifest (h : Host) (path : Path) : Except Failure Manifest := do
  match ← readDocument h path with
  | .error fault => throw (.manifest path.toString fault)
  | .ok root =>
    match Manifest.ofDocument h path root with
    | .ok manifest => return manifest
    | .error fault => throw (.manifest path.toString fault)

end PascalWorkspace
