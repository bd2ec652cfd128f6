import PascalWorkspace.Failure
import PascalWorkspace.Json.Value

/-! The settings of a compiler toolchain and where each of them can come from: the client, the
configuration of the development environment, and the process environment. A setting that is empty
is not known. -/
namespace PascalWorkspace

/-- What a toolchain has, by the names under which it is reported. -/
inductive Setting where
  | compiler
  | compilerSources
  | ideSources
  | targetOs
  | targetCpu
  | projectDirectory
  | scratchFile
  deriving DecidableEq, Repr

structure Toolchain where
  compiler : Text.Wide := ""
  compilerSources : Text.Wide := ""
  ideSources : Text.Wide := ""
  targetOs : Text.Wide := ""
  targetCpu : Text.Wide := ""
  projectDirectory : Text.Wide := ""
  scratchFile : Text.Wide := ""
  deriving DecidableEq, Repr

namespace Setting

def all : List Setting :=
  [.compiler, .compilerSources, .ideSources, .targetOs, .targetCpu, .projectDirectory, .scratchFile]

/-- The settings that the client and the environments can give. -/
def guessable : List Setting := [.compiler, .compilerSources, .ideSources, .targetOs, .targetCpu]

def name : Setting → String
  | .compiler => "fpc_path"
  | .compilerSources => "fpc_src_dir"
  | .ideSources => "lazarus_src_dir"
  | .targetOs => "target_os"
  | .targetCpu => "target_cpu"
  | .projectDirectory => "project_dir"
  | .scratchFile => "test_pascal_file"

/-- The environment variable or client option of a setting. -/
def key? : Setting → Option String
  | .compiler => some "PP"
  | .compilerSources => some "FPCDIR"
  | .ideSources => some "LAZARUSDIR"
  | .targetOs => some "FPCTARGET"
  | .targetCpu => some "FPCTARGETCPU"
  | .projectDirectory | .scratchFile => none

end Setting

namespace Toolchain

def get (t : Toolchain) : Setting → Text.Wide
  | .compiler => t.compiler
  | .compilerSources => t.compilerSources
  | .ideSources => t.ideSources
  | .targetOs => t.targetOs
  | .targetCpu => t.targetCpu
  | .projectDirectory => t.projectDirectory
  | .scratchFile => t.scratchFile

def set (t : Toolchain) (value : Text.Wide) : Setting → Toolchain
  | .compiler => { t with compiler := value }
  | .compilerSources => { t with compilerSources := value }
  | .ideSources => { t with ideSources := value }
  | .targetOs => { t with targetOs := value }
  | .targetCpu => { t with targetCpu := value }
  | .projectDirectory => { t with projectDirectory := value }
  | .scratchFile => { t with scratchFile := value }

/-- Whether a value found for a setting is taken: the setting is not known and the value is. -/
def accepts (t : Toolchain) (s : Setting) (value : Text.Wide) : Bool :=
  (t.get s).isEmpty && !value.isEmpty

def fill (t : Toolchain) (s : Setting) (value : Text.Wide) : Toolchain :=
  if t.accepts s value then t.set value s else t

/-- The settings that are still to be found. -/
def missing (t : Toolchain) : List Setting := Setting.guessable.filter fun s => (t.get s).isEmpty

/-- Settings that are not known are taken from environment variables. -/
def withEnvironment (t : Toolchain) (env : Environment) : Toolchain :=
  Setting.guessable.foldl (fun t s => t.fill s ((s.key?.bind env.get?).getD "")) t

/-- Takes over what the client gives as text, empty text included. -/
def withClientMembers (t : Toolchain) (members : Json.Members) : Toolchain :=
  Setting.guessable.foldl (fun t s =>
    match s.key?.bind fun key => members.lookup (.plain key) with
    | some (.text value) => t.set value s
    | _ => t) t

/-- Takes over the options of a client, which are an object or left out. -/
def withClientOptions (t : Toolchain) : Json.Value → Except RequestFault Toolchain
  | .null => .ok t
  | .object members => .ok (t.withClientMembers members)
  | _ => .error .optionsNotObject

end Toolchain

end PascalWorkspace
