/-! What an operation reports while it runs. -/
namespace PascalWorkspace

inductive Level where
  | debug
  | info
  | warning
  | error
  deriving DecidableEq, Repr

def Level.rank : Level → Nat
  | .debug => 0
  | .info => 1
  | .warning => 2
  | .error => 3

def Level.text : Level → String
  | .debug => "DEBUG"
  | .info => "INFO"
  | .warning => "WARNING"
  | .error => "ERROR"

/-- The part of the program that reports. -/
inductive Reporter where
  | registry
  | resolver
  | walk
  | publication
  | engine
  | settings
  | ideSettings
  | handshake
  deriving DecidableEq, Repr

def Reporter.name : Reporter → String
  | .registry => "pasls.packages.registry"
  | .resolver => "pasls.packages.resolver"
  | .walk => "pasls.packages.workspace"
  | .publication => "pasls.codetools.configure"
  | .engine => "pasls.codetools.engine"
  | .settings => "pasls.infrastructure.config"
  | .ideSettings => "pasls.infrastructure.lazarus_config"
  | .handshake => "pasls.services.initialize"

structure Report where
  level : Level
  reporter : Reporter
  text : String
  deriving DecidableEq, Repr

def Report.line (r : Report) : String := s!"{r.level.text} {r.reporter.name}: {r.text}"

/-- The reports so far, oldest first. -/
abbrev Log := Array Report

/-- The reports of a level and above, one line each. -/
def Log.lines (log : Log) (least : Level) : List String :=
  (log.toList.filter fun r => least.rank ≤ r.level.rank).map (·.line)

end PascalWorkspace
