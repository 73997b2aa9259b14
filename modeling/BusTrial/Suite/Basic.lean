import BusTrial.Config.Load
import BusTrial.Directory
import BusTrial.Flight.Record
import BusTrial.HostCommand
import BusTrial.Suite.Distro
import BusTrial.Unstable

/-!
# Suites

A `Suite` is what the tests of a service share: the configuration, the directory of the service and
the distribution.  It can be set up only on a host with enough devices for the tests.
-/

namespace BusTrial

/-- What tests share. -/
structure Suite where
  config : Config
  directory : Directory
  distro : Distro

namespace Suite

/-- The failure of a host with too few devices. -/
def tooFewDevices (needed found : Nat) : Failure :=
  .plain .invalidConfig
    ("the suite needs at least " ++ Nat.repr needed ++ " test devices, " ++ Nat.repr found
      ++ " configured")

/-- The directory of the service that a configuration names. -/
def directoryOf (config : Config) (link : BusLink) : Directory where
  link := link
  service := config.service.name
  pathBase := config.service.pathBase
  timing := config.timing

/-- The plan for wiping devices. -/
def wipePlan (config : Config) : HostCommand.WipePlan where
  attempts := config.commands.wipeAttempts
  backoff := .ofMillis config.commands.wipeBackoffMillis

section

variable {σ : Type} [Bus σ] [Processes σ] [EventLog σ]

/-- Sets a suite up. -/
def setup (config : Config) (link : BusLink) : Act σ Suite := do
  let devices := config.suite.devices
  if devices.length < config.suite.minDevices then
    throw (tooFewDevices config.suite.minDevices devices.length)
  let distro ← Distro.read link
  report "info" "suite.setup"
    [("service", .string config.service.name), ("devices", .ofTexts devices),
      ("distro", .ofTexts [distro.project, distro.name, distro.version])]
  return { config, directory := directoryOf config link, distro }

/-- Wipes a device as often as the configuration allows. -/
def wipe [Clock σ] (s : Suite) (device : String) : Act σ Bool :=
  HostCommand.wipe (wipePlan s.config) device

/-- Runs a test and adds its section to the flight record. -/
def record [Clock σ] [Files σ] [Journal.Feed σ] {α : Type} (s : Suite) (source : Journal.Source)
    (id : TestId) (body : Act σ α) : Act σ α :=
  Flight.recordTest s.config.flight source id body

/-- Runs an unstable test in an environment. -/
def runUnstable [Terminal σ] (s : Suite) (env : Environment) (body : Act σ Unit) :
    Act σ UnstableOutcome :=
  BusTrial.runUnstable (unstableFailuresFatal env s.config.suite.unstableVariable) body

end

end Suite

end BusTrial
