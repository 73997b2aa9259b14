import BusTrial.CommandLine.Invocation
import BusTrial.Suite.Basic

/-!
# Running a command line

`run` reads a command line, loads the configuration and does what the command says; its value is the
exit code.  Properties are read from the system bus through `busctl`, and the journal is read through
`journalctl`.

`runRecord` and `runProbe` are the two commands that report on a test: the exit code of the one is that
of the recorded command, unless the test is unstable, and that of the other says whether the condition
was met in time.
-/

namespace BusTrial.CommandLine

/-- The failure of a command line that was not understood. -/
def misunderstood : Failure :=
  .plain .commandLine "the command line does not have the form of any command"

variable {σ : Type}

/-! ## The commands -/

section

variable [Clock σ] [Files σ] [Processes σ] [Terminal σ] [Journal.Feed σ] [EventLog σ]

/-- Writes what a process left to the terminal. -/
def showOutput (out : ProcessOutput) : Act σ Unit := do
  if out.output ≠ "" then Terminal.writeLine (Text.dropTrailing '\n' out.output)
  if out.errors ≠ "" then Terminal.writeError out.errors

/-- Runs a request as a test, records it and shows what it left. -/
def recordOnce (config : Config) (id : TestId) (request : Request) : Act σ Int := do
  let out ← Flight.recordTest config.flight .journalctl id (Processes.run request)
  showOutput out
  return out.exitCode

/-- Runs a request as an unstable test: one that fails with its exit code fails as a whole. -/
def recordUnstable (config : Config) (env : Environment) (id : TestId) (request : Request) :
    Act σ Int := do
  let body : Act σ Unit := do
    let code ← recordOnce config id request
    if code ≠ 0 then
      throw (.process ("\x60" ++ request.display ++ "\x60 exited with " ++ Int.repr code))
  match ← runUnstable (unstableFailuresFatal env config.suite.unstableVariable) body with
  | .passed => return 0
  | .softFailed message =>
    report "warn" "harness.record.unstable_failure"
      [("test_id", .string id.display), ("error", .string message)]
    return 0

/-- Runs a command as a test and records it. -/
def runRecord (config : Config) (env : Environment) (command : RecordCommand) : Act σ Int := do
  let id ← Act.ofExcept (TestId.parse command.testId)
  let request ← Act.ofExcept (Request.ofWords command.words)
  if command.unstable then recordUnstable config env id request else recordOnce config id request

end

section

variable [Clock σ] [Processes σ] [Terminal σ] [Bus σ] [EventLog σ]

/-- The probe that a command asks for. -/
def probeOf (config : Config) (link : BusLink) (command : ProbeCommand) : Probe :=
  let directory := Suite.directoryOf config link
  let interface :=
    if Text.startsWith command.interface "." then directory.interfaceName command.interface
    else command.interface
  { link, object := ⟨config.service.name, directory.resolvePath command.object⟩, interface,
    property := command.property, timing := config.timing }

/-- The object and the property that a probe watches. -/
def probeLabel (p : Probe) : String :=
  p.object.display ++ " " ++ p.member

/-- Waits until a property meets a condition, and reports what it was or what is wrong with it. -/
def runProbe (config : Config) (link : BusLink) (command : ProbeCommand) : Act σ Int := do
  let condition ← Act.ofExcept command.choice.condition
  let (ended, probe) ←
    Act.within (probeOf config link command) (Probe.assert condition.assertion)
  match ended with
  | .done () =>
    Terminal.writeLine (probeLabel probe ++ " = " ++ Value.displayOption probe.last)
    return 0
  | .failed (.plain .assertion text) =>
    Terminal.writeError (probeLabel probe ++ ": " ++ text ++ "\n")
    return 1
  | .failed failure => throw failure
  | .crashed crash => .crash crash

/-- Wipes a device and reports whether that succeeded. -/
def runWipe (config : Config) (device : String) : Act σ Int := do
  let plan := Suite.wipePlan config
  if ← HostCommand.wipe plan device then
    Terminal.writeLine ("wiped " ++ device)
    return 0
  else
    Terminal.writeError (HostCommand.wipeCommand device ++ " kept failing after "
      ++ Nat.repr plan.attempts ++ " attempts\n")
    return 1

end

/-! ## The whole run -/

/-- What an invocation overrides in the configuration. -/
def Invocation.overrides (i : Invocation) : Overrides where
  configPath := i.configPath
  runLogPath := i.runLogPath
  recordPath := match i.command with
    | .record command => command.recordPath
    | _ => none
  timeoutMillis := match i.command with
    | .probe command => command.timeoutMillis
    | _ => none

variable [Clock σ] [Files σ] [Processes σ] [Terminal σ] [Journal.Feed σ] [Bus σ] [RunLogging σ]

/-- Does what a command says. -/
def runCommand (config : Config) (env : Environment) : Command → Act σ Int
  | .record command => runRecord config env command
  | .probe command => runProbe config (.system ⟨config.callTimeout⟩) command
  | .wipe device => runWipe config device
  | .settle => do
    HostCommand.settle
    return 0

/-- Runs an invocation in a directory. -/
def runInvocation (i : Invocation) (env : Environment) (directory : FilePath) : Act σ Int := do
  let config ← Config.load i.overrides directory
  if let some path := config.logging.runLogPath then Act.change (RunLogging.logTo path)
  report "info" "harness.command.started"
    [("command", .string i.command.name), ("service", .string config.service.name)]
  let code ← runCommand config env i.command
  report "info" "harness.command.finished"
    [("command", .string i.command.name), ("exit_code", .int code)]
  return code

/-- Runs a command line, given without the name of the program.  A command line that asks for help
does nothing. -/
def run (words : List String) (env : Environment) (directory : FilePath) : Act σ Int :=
  match Invocation.parse words with
  | .ok invocation => runInvocation invocation env directory
  | .error .help => return 0
  | .error .malformed => throw misunderstood

end BusTrial.CommandLine
