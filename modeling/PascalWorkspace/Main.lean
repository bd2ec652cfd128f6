import PascalWorkspace.CommandLine.Run
import PascalWorkspace.FileTree.Listing

/-! The command. It reads the listing of a file tree from standard input, so that a whole run sees
one state of the tree, and works in the directory that the environment names. -/
namespace PascalWorkspace

/-- The environment variables that a run can depend on. -/
def environmentNames : List String :=
  ["HOME", "XDG_CONFIG_HOME"] ++ Setting.all.filterMap (·.key?)

def readEnvironment : IO Environment := do
  let found ← environmentNames.mapM fun name => do
    return (← IO.getEnv name).map fun value => (name, value)
  return found.filterMap id

def readHost : IO Host := do
  let listing ← (← IO.getStdin).readToEnd
  let place := (← IO.getEnv "PWD").getD "/"
  return {
    tree := FileTree.ofListing listing
    cwd := (Path.ofString place).parts
    environment := ← readEnvironment
    homes := [] }

/-- The path of a source file that does not exist yet. -/
def newScratchFile : IO String := do
  let directory := (← IO.getEnv "TMPDIR").getD "/tmp"
  let number ← IO.rand 0 (1 <<< 128 - 1)
  let digits := String.ofList (Text.hexDigits 32 number)
  return ((Path.ofString directory).child s!"pasls-{digits}.pas").toString

def usage : String := "usage: pasls [-v] [-q] scan [ROOT] [--json] | initialize [ROOT] [OPTIONS]"

def printOutput : CommandLine.Output → IO Unit
  | .text s => IO.print s
  | .table t summary => do
    IO.println t.text
    IO.println summary

end PascalWorkspace

open PascalWorkspace in
def main (args : List String) : IO UInt32 := do
  match CommandLine.run (← readHost) (← newScratchFile) args with
  | .usageError =>
    IO.eprintln usage
    return 2
  | .finished code output diagnostics =>
    IO.eprint diagnostics
    printOutput output
    return UInt32.ofNat code
  | .failed failure diagnostics =>
    IO.eprint diagnostics
    IO.eprintln failure.message
    return 1
