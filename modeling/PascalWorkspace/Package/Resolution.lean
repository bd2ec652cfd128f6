import PascalWorkspace.Workspace

/-! Finding the packages that a package requires, then those that they require, depth first. A
package registered under the required name counts before the hint in the manifest, unless the hint
is preferred. -/
namespace PascalWorkspace

/-- A dependency by the manifest that declares it and its place there. -/
structure DependencyRef where
  manifest : String
  index : Nat
  deriving DecidableEq, Repr

/-- The dependencies of a package in the order of declaration. -/
def Package.dependencyRefs (p : Package) : List DependencyRef :=
  (List.range p.dependencies.length).map fun index => ⟨p.manifest, index⟩

namespace Registry

/-- The manifest that a name leads to, or the empty text. -/
def namedPath (r : Registry) (name : String) : String := (r.lookup? name).getD ""

/-- The path under which a required package is looked for, or the empty text. -/
def choosePath (r : Registry) (d : Dependency) : String :=
  if d.prefer || (r.namedPath d.name).isEmpty then d.hint else r.namedPath d.name

/-- Ties a dependency to the package found for it, in both directions. -/
def link (r : Registry) (ref : DependencyRef) (target : String) : Registry :=
  (r.update ref.manifest (·.withTarget ref.index target)).update target
    fun p => { p with requiredBy := p.requiredBy ++ [ref.manifest] }

def markResolved (r : Registry) (key : String) : Registry :=
  r.update key fun p => { p with isResolved := true }

end Registry

namespace Workspace

/-- Looks for the package that a dependency requires and ties it to the dependency. -/
def linkDependency (source : ManifestSource) (ref : DependencyRef) : Action (Option Package) := do
  let registry := (← get).registry
  match registry.find? ref.manifest with
  | none => return none
  | some p =>
    match p.dependencies[ref.index]? with
    | none => return none
    | some d =>
      let path := registry.choosePath d
      if path.isEmpty then
        report .debug .resolver s!"Dependency {d.name} of {p.name}: not found"
        return none
      else
        match ← tryRegister source path with
        | .error reason =>
          report .warning .resolver s!"Dependency {d.name} of {p.name}: {reason}"
          return none
        | .ok target =>
          report .debug .resolver s!"Dependency: {d.name} -> {path}"
          changeRegistry (·.link ref target.manifest)
          return some target

/-- Works through the dependencies in front. Those of a package met for the first time come before
the rest; `fuel` more packages may be met. -/
def resolveAll (source : ManifestSource) : Nat → List DependencyRef → Action Unit
  | _, [] => pure ()
  | fuel, ref :: rest => do
    match ← linkDependency source ref with
    | none => resolveAll source fuel rest
    | some target =>
      if target.isResolved then resolveAll source fuel rest
      else
        changeRegistry (·.markResolved target.manifest)
        match fuel with
        | 0 => throw .exhausted
        | fuel + 1 => resolveAll source fuel (target.dependencyRefs ++ rest)
  termination_by fuel refs => (fuel, refs.length)

/-- Finds all that a registered package needs, once. -/
def resolve (source : ManifestSource) (key : String) : Action Unit := do
  let registry := (← get).registry
  match registry.find? key with
  | none => pure ()
  | some p =>
    if p.isResolved then pure ()
    else
      changeRegistry (·.markResolved key)
      resolveAll source (source.capacity + registry.size) p.dependencyRefs

end Workspace

end PascalWorkspace
