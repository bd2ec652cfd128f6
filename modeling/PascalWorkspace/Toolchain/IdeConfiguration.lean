import PascalWorkspace.Manifest.Reading
import PascalWorkspace.Session

/-! Toolchain settings in the configuration files of the development environment. Every file is read
as far as it can be; the first value found for a setting stays. -/
namespace PascalWorkspace

/-- Takes the value of a variable unless it is missing or empty. -/
def Environment.nonEmpty? (env : Environment) (name : String) : Option String :=
  (env.get? name).filter (!·.isEmpty)

namespace IdeConfiguration

/-- The file with the directories of compiler and sources. -/
def optionsFile : String := "environmentoptions.xml"

/-- The file with the target that was detected last. -/
def definesFile : String := "fpcdefines.xml"

/-- The usual places of the configuration: that of the user, an older one in the home directory, and
that of the whole system. -/
def usualDirectories (platform : Platform) (env : Environment) (home : Path) : List Path :=
  let under (directory : String) : Path := (Path.ofString directory).child "lazarus"
  match platform with
  | .windows =>
    let fallback := ((home.child "AppData").child "Local").toString
    let shared := (env.nonEmpty? "ALLUSERSPROFILE").getD (env.getD "PROGRAMDATA" "C:/ProgramData")
    [under ((env.nonEmpty? "LOCALAPPDATA").getD fallback), home.child ".lazarus", under shared]
  | .posix =>
    let fallback := (home.child ".config").toString
    [under ((env.nonEmpty? "XDG_CONFIG_HOME").getD fallback), home.child ".lazarus",
      Path.ofString "/etc/lazarus"]

/-- The root of a configuration file, if it can be read as one. -/
def load (h : Host) (path : Path) : Operation Session (Option Xml.Element) := do
  match readDocument h path with
  | .error failure => throw failure
  | .ok (.error fault) =>
    Session.report .debug .ideSettings s!"Cannot read {path}: {fault.reason path.toString}"
    return none
  | .ok (.ok root) =>
    if root.tag = "CONFIG" then return some root
    else
      Session.report .debug .ideSettings s!"Ignoring {path}: root element is <{root.tag}>"
      return none

/-- Settings with the values that a file holds for them. -/
abbrev Values := List (Setting × Text.Wide)

def optionValues (root : Xml.Element) : Values :=
  let options := root.child? "EnvironmentOptions"
  [(.ideSources, Xml.childValue options "LazarusDirectory" "Value"),
    (.compilerSources, Xml.childValue options "FPCSourceDirectory" "Value"),
    (.compiler, Xml.childValue options "CompilerFilename" "Value")]

/-- Of several detected compilers the first counts. -/
def defineValues (root : Xml.Element) : Values :=
  let first := (root.child? "FPCConfigs").bind (·.children.head?)
  [(.targetOs, Xml.childValue first "RealCompiler" "OS"),
    (.targetCpu, Xml.childValue first "RealCompiler" "CPU")]

def readOptions (h : Host) (directory : Path) : Operation Session (Option Values) := do
  return (← load h (directory.child optionsFile)).map optionValues

def readDefines (h : Host) (directory : Path) : Operation Session (Option Values) := do
  return (← load h (directory.child definesFile)).map defineValues

/-- Takes over the values for settings that are not known yet; the result is the settings filled. -/
def takeValues (directory : Path) : Values → Operation Session (List Setting)
  | [] => return []
  | (setting, value) :: rest => do
    if (← get).toolchain.accepts setting value then
      modify fun s => { s with toolchain := s.toolchain.set value setting }
      Session.report .debug .ideSettings s!"{setting.name} = {value.quoted} (from {directory})"
      return setting :: (← takeValues directory rest)
    else takeValues directory rest

/-- A directory to search. One that no path can name is found out when it is its turn. -/
abbrev Candidate := Except PathError Path

/-- Fills settings from the files in the directories in turn; the result is the settings filled. -/
def fill (h : Host) : List Candidate → Operation Session (List Setting)
  | [] => return []
  | candidate :: rest => do
    let directory ← ofPathResult candidate
    let options ← takeValues directory ((← readOptions h directory).getD [])
    let defines ← takeValues directory ((← readDefines h directory).getD [])
    let others ← fill h rest
    return options ++ defines ++ others

/-- The directory that a text of the configuration names. The home directory in front is put in at
once, whether the rest can be encoded or not. -/
def candidateNamed (h : Host) (text : Text.Wide) : Except PathError Candidate :=
  match Text.fileChars? [] text.points with
  | some cs => (h.expandHome (Path.ofString (String.ofList cs))).map .ok
  | none =>
    let encodable := text.points.takeWhile Text.CodePoint.isEncodable
    let front := (text.points.take (encodable.length + 1)).map Text.CodePoint.sign
    let path := Path.ofString (String.ofList front)
    if path.anchor = .relative ∧ path.parts.length = 1 ∧ path.name.toList.head? = some '~' then
      .error .unencodable
    else (h.expandHome path).map fun _ => .error .unencodable

/-- The usual places on a host. -/
def directoriesOf (h : Host) : Operation Session (List Path) := do
  let home ← ofPathResult h.home
  return usualDirectories h.platform h.environment home

end IdeConfiguration

end PascalWorkspace
