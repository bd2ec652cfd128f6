import PascalWorkspace.Define.Tree
import PascalWorkspace.Log
import PascalWorkspace.Package.Registry
import PascalWorkspace.Package.Source

/-! What a scan knows and reports, and the operations on it. -/
namespace PascalWorkspace

structure Workspace where
  registry : Registry := {}
  defines : DefineTree := {}
  log : Log := #[]
  deriving Repr

/-- An operation on a state. What was done before a failure stays done. -/
abbrev Operation (σ α : Type) := ExceptT Failure (StateM σ) α

/-- An operation on a workspace. -/
abbrev Action (α : Type) := Operation Workspace α

/-- Ends an operation that cannot use a path. -/
def ofPathResult {σ α : Type} : Except PathError α → Operation σ α
  | .ok a => pure a
  | .error e => throw (.badPath e)

namespace Workspace

def report (level : Level) (reporter : Reporter) (text : String) : Action Unit :=
  modify fun w => { w with log := w.log.push ⟨level, reporter, text⟩ }

def changeRegistry (f : Registry → Registry) : Action Unit :=
  modify fun w => { w with registry := f w.registry }

def addNode (n : DefineNode) : Action Unit :=
  modify fun w => { w with defines := w.defines.add n }

/-- The package of a manifest, which is read and registered at first use. A manifest that cannot be
read leaves nothing registered. -/
def register (source : ManifestSource) (path : String) : Action Package := do
  let key ← ofPathResult (source.canonical path)
  match (← get).registry.find? key with
  | some p => return p
  | none =>
    changeRegistry fun r => { r with requested := r.requested ++ [key] }
    match source.read key with
    | .error failure => throw failure
    | .ok manifest =>
      let p := Package.ofManifest key manifest
      changeRegistry (·.add p)
      report .debug .registry s!"Registered {p.name} ({key})"
      return p

/-- The package of a manifest, or what is wrong with the manifest. -/
def tryRegister (source : ManifestSource) (path : String) : Action (Except String Package) := do
  try return .ok (← register source path)
  catch
    | .manifest key fault => return .error (Failure.manifest key fault).message
    | failure => throw failure

end Workspace

end PascalWorkspace
