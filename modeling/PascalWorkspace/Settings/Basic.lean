import PascalWorkspace.Text.Wide

/-! What the configuration file of a workspace can set. -/
namespace PascalWorkspace

structure WorkspaceSettings where
  /-- Names of further directories that a walk leaves out, in lower case. -/
  ignored : List Text.Wide := []
  /-- Where the development environment keeps its configuration, in place of the usual places. -/
  ideDirectories : Option (List Text.Wide) := none
  deriving DecidableEq, Repr

/-- Those of the names that a directory can have. -/
def WorkspaceSettings.ignoredNames (s : WorkspaceSettings) : List String :=
  s.ignored.filterMap Text.Wide.listed?

end PascalWorkspace
