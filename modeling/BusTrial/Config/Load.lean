import BusTrial.Config.File
import BusTrial.Device.Files
import BusTrial.Text.Blank

/-!
# The configuration of a run

A configuration has three layers: the defaults, a file, and what the command line overrides.
`Config.effective` puts them over each other and completes the paths in the result, and
`Config.problem?` says what keeps a configuration from being usable.  `Config.load` reads the file, if
one is named.
-/

namespace BusTrial

/-- What the command line says about the configuration. -/
structure Overrides where
  /-- The configuration file to read. -/
  configPath : Option FilePath := none
  recordPath : Option FilePath := none
  runLogPath : Option FilePath := none
  timeoutMillis : Option Nat := none
  deriving DecidableEq, Repr

/-- What the command line overrides, as a layer. -/
def Overrides.patch (o : Overrides) : ConfigPatch where
  probe := { timeoutMillis := o.timeoutMillis }
  flight := { recordPath := o.recordPath }
  logging := { runLogPath := o.runLogPath }

/-- Why a configuration cannot be used. -/
inductive ConfigProblem where
  | blankServiceName
  | relativePathBase
  | noInterval
  | intervalBeyondTimeout
  | noWipeAttempts
  | monitorWithoutCommand (label : String)
  deriving DecidableEq, Repr

/-- The problem in one sentence. -/
def ConfigProblem.message : ConfigProblem → String
  | .blankServiceName => "service.name must not be empty"
  | .relativePathBase => "service.path_prefix must be an absolute object path"
  | .noInterval => "probe.interval_ms must be greater than zero"
  | .intervalBeyondTimeout => "probe.interval_ms must not exceed probe.timeout_ms"
  | .noWipeAttempts => "commands.wipe_attempts must be greater than zero"
  | .monitorWithoutCommand label => "flight monitor \x60" ++ label ++ "\x60 needs a command"

/-- The problem as a failure. -/
def ConfigProblem.failure (p : ConfigProblem) : Failure :=
  .plain .invalidConfig p.message

/-- The monitor names a program. -/
def Monitor.hasCommand (m : Monitor) : Bool :=
  match m.words with
  | [] => false
  | program :: _ => !Text.isBlankText program

namespace Config

/-- The first problem of a configuration. -/
def problem? (c : Config) : Option ConfigProblem :=
  if Text.isBlankText c.service.name then some .blankServiceName
  else if !Text.startsWith c.service.pathBase "/" then some .relativePathBase
  else if c.probe.intervalMillis = 0 then some .noInterval
  else if c.probe.timeoutMillis < c.probe.intervalMillis then some .intervalBeyondTimeout
  else if c.commands.wipeAttempts = 0 then some .noWipeAttempts
  else
    (c.flight.monitors.find? fun m => !m.hasCommand).map fun m => .monitorWithoutCommand m.label

/-- Sees the paths from a directory. -/
def completePaths (directory : FilePath) (c : Config) : Config :=
  { c with
    flight := { c.flight with recordPath := .absolute directory c.flight.recordPath },
    logging := { c.logging with runLogPath := c.logging.runLogPath.map (.absolute directory) } }

/-- The configuration that the layers make up. -/
def effective (file overrides : ConfigPatch) (directory : FilePath) : Config :=
  completePaths directory (apply overrides (apply file {}))

/-- The configuration that the layers make up, if it can be used. -/
def checked (file overrides : ConfigPatch) (directory : FilePath) : Except ConfigProblem Config :=
  let c := effective file overrides directory
  match c.problem? with
  | some problem => .error problem
  | none => .ok c

/-- The failure of a configuration file that cannot be read as one. -/
def unreadable : Failure :=
  .plain .configSyntax "not a configuration file"

variable {σ : Type} [Files σ]

/-- The layer that a file makes up. -/
def readPatch (path : FilePath) : Act σ ConfigPatch := do
  let text ← Files.read path
  match ConfigPatch.ofText? text with
  | some patch => return patch
  | none => throw unreadable

/-- Loads the configuration for a run in a directory. -/
def load (overrides : Overrides) (directory : FilePath) : Act σ Config := do
  let file ← match overrides.configPath with
    | some path => readPatch (.absolute directory path)
    | none => pure {}
  .ofExcept ((checked file overrides.patch directory).mapError ConfigProblem.failure)

end Config

end BusTrial
