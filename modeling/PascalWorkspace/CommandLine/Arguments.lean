import PascalWorkspace.Log
import PascalWorkspace.Toolchain.Basic

/-! What the arguments of the command ask for. Options may stand before and after the root of the
workspace; two dashes end them. -/
namespace PascalWorkspace.CommandLine

/-- The options that a command knows. -/
structure OptionNames where
  /-- Options without a value. -/
  flags : List String
  /-- Options with a value. -/
  valued : List String
  /-- Whether options may follow other arguments. -/
  mixed : Bool

/-- Arguments taken apart; the value that was given last stands first. -/
structure Given where
  flags : List String := []
  values : List (String × String) := []
  others : List String := []
  deriving Repr

namespace Given

def addFlag (g : Given) (name : String) : Given := { g with flags := name :: g.flags }

def addValue (g : Given) (name value : String) : Given :=
  { g with values := (name, value) :: g.values }

/-- Adds a group of one-letter flags. -/
def addLetters? (names : OptionNames) (g : Given) : List Char → Option Given
  | [] => some g
  | c :: rest =>
    let name := String.ofList ['-', c]
    if names.flags.contains name then addLetters? names (g.addFlag name) rest else none

def isOption (arg : String) : Bool := arg.toList.head? == some '-' && 1 < arg.length

def isLong (arg : String) : Bool := ['-', '-'].isPrefixOf arg.toList

/-- The name of an option and the value behind an equals sign. -/
def splitOption (arg : String) : String × Option String :=
  let name := arg.toList.takeWhile (· ≠ '=')
  match arg.toList.drop name.length with
  | _ :: value => (String.ofList name, some (String.ofList value))
  | [] => (arg, none)

/-- What an option adds; the second part is the option if its value is still to come. -/
def addOption? (names : OptionNames) (g : Given) (arg : String) : Option (Given × Option String) :=
  let (name, value) := splitOption arg
  if !isLong arg then (g.addLetters? names (arg.toList.drop 1)).map (·, none)
  else if names.valued.contains name then
    match value with
    | some value => some (g.addValue name value, none)
    | none => some (g, some name)
  else if value.isNone && names.flags.contains name then some (g.addFlag name, none)
  else none

/-- Takes arguments apart; nothing if an option is unknown or lacks its value. `awaiting` is an
option whose value comes next. -/
def read? (names : OptionNames) (g : Given) (awaiting : Option String) : List String → Option Given
  | [] => if awaiting.isSome then none else some g
  | arg :: rest =>
    match awaiting with
    | some name => read? names (g.addValue name arg) none rest
    | none =>
      if arg = "--" then some { g with others := g.others ++ rest }
      else if isOption arg then
        match g.addOption? names arg with
        | some (g, awaiting) => read? names g awaiting rest
        | none => none
      else if names.mixed then read? names { g with others := g.others ++ [arg] } none rest
      else some { g with others := g.others ++ arg :: rest }

/-- Whether a flag is given under one of its names. -/
def has (g : Given) (names : List String) : Bool := names.any g.flags.contains

end Given

inductive Command where
  | scan (root : String) (json : Bool)
  | handshake (root : String) (rootUri : Option String) (options : List (Setting × String))
  deriving Repr

inductive Request where
  | version
  | run (least : Level) (command : Command)
  deriving Repr

def mainOptions : OptionNames :=
  { flags := ["-v", "--verbose", "-q", "--quiet", "--version"], valued := [], mixed := false }

def scanOptions : OptionNames := { flags := ["--json"], valued := [], mixed := true }

/-- The options of a toolchain. -/
def settingOptions : List (String × Setting) := [
  ("--pp", .compiler), ("--fpcdir", .compilerSources), ("--lazarusdir", .ideSources),
  ("--target-os", .targetOs), ("--target-cpu", .targetCpu)]

def rootUriOption : String := "--root-uri"

def handshakeOptions : OptionNames :=
  { flags := [], valued := rootUriOption :: settingOptions.map (·.1), mixed := true }

/-- The root that is named, or the working directory; there must not be two. -/
def rootOf? : List String → Option String
  | [] => some "."
  | [root] => some root
  | _ => none

def scanCommand? (args : List String) : Option Command := do
  let given ← Given.read? scanOptions {} none args
  return .scan (← rootOf? given.others) (given.has ["--json"])

def handshakeCommand? (args : List String) : Option Command := do
  let given ← Given.read? handshakeOptions {} none args
  let options := settingOptions.filterMap fun o => (given.values.lookup o.1).map fun v => (o.2, v)
  return .handshake (← rootOf? given.others) (given.values.lookup rootUriOption) options

def scanName : String := "scan"

def handshakeName : String := "initialize"

def commandNames : List String := [scanName, handshakeName]

def command? (name : String) (args : List String) : Option Command :=
  if name = scanName then scanCommand? args else handshakeCommand? args

/-- The least level that is reported. -/
def leastLevel (g : Given) : Level :=
  if g.has ["-v", "--verbose"] then .debug
  else if g.has ["-q", "--quiet"] then .error
  else .warning

/-- Arguments that name no command are taken apart once more, which can still find an option behind
two dashes. -/
def lateVersion? (args : List String) : Option Request := do
  let given ← Given.read? mainOptions {} none args
  if given.has ["--version"] then some .version else none

/-- What the arguments ask for; nothing if they are not understood. -/
def request? (args : List String) : Option Request := do
  let given ← Given.read? mainOptions {} none args
  if given.has ["--version"] then return .version
  match given.others with
  | [] => none
  | name :: rest =>
    if commandNames.contains name then return .run (leastLevel given) (← command? name rest)
    else lateVersion? given.others

end PascalWorkspace.CommandLine
