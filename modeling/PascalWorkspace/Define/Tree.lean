import PascalWorkspace.Host.Basic

/-! Search-path variables by directory. The nodes are replayed in the order in which they were
added; each define that applies appends its paths to its variable. -/
namespace PascalWorkspace

structure Define where
  variableName : String
  paths : List String
  /-- Whether the define also applies below the directory of its node. -/
  recursive : Bool := false
  description : String := ""
  deriving DecidableEq, Repr

structure DefineNode where
  name : String
  directory : String
  defines : List Define
  deriving DecidableEq, Repr

/-- The values of the variables, in the order in which they first occur. -/
abbrev DefineValues := List (String × List String)

structure DefineTree where
  nodes : List DefineNode := []
  deriving DecidableEq, Repr

def unitVariable : String := "UnitPath"
def includeVariable : String := "IncludePath"
def sourceVariable : String := "SrcPath"

namespace Define

def addUnits (paths : List String) (recursive : Bool) : Define :=
  ⟨unitVariable, paths, recursive, "Add to the UnitPath"⟩

def addIncludes (paths : List String) (recursive : Bool) : Define :=
  ⟨includeVariable, paths, recursive, "Add to the Include path"⟩

def addSources (paths : List String) (recursive : Bool) : Define :=
  ⟨sourceVariable, paths, recursive, "Add to the Src path"⟩

end Define

/-- Directories are compared component by component. -/
def DefineNode.appliesTo (n : DefineNode) (directory : String) (d : Define) : Bool :=
  let scope := Path.ofString n.directory
  let place := Path.ofString directory
  place == scope || d.recursive && scope.covers place

namespace DefineValues

def append (values : DefineValues) (name : String) (paths : List String) : DefineValues :=
  if values.any (·.1 == name) then
    values.map fun v => if v.1 = name then (name, v.2 ++ paths) else v
  else values ++ [(name, paths)]

/-- The path variables have a value even where no define applies. -/
def initial : DefineValues := [(unitVariable, []), (includeVariable, []), (sourceVariable, [])]

end DefineValues

namespace DefineTree

def size (t : DefineTree) : Nat := t.nodes.length

def add (t : DefineTree) (n : DefineNode) : DefineTree := ⟨t.nodes ++ [n]⟩

/-- The defines that apply to a directory, in the order of their nodes. -/
def applicable (t : DefineTree) (directory : String) : List Define :=
  t.nodes.flatMap fun n => n.defines.filter (n.appliesTo directory)

def valuesAt (t : DefineTree) (directory : String) : DefineValues :=
  (t.applicable directory).foldl (fun values d => values.append d.variableName d.paths)
    DefineValues.initial

/-- The values seen from a directory, however its path is spelled. -/
def evaluate (t : DefineTree) (h : Host) (directory : String) : Except PathError DefineValues := do
  let place ← h.canonical directory
  return t.valuesAt place

end DefineTree

end PascalWorkspace
