import BusTrial.FilePath
import BusTrial.Probe.Timing

/-!
# Configuration

`Config` holds everything that can be set for a run, with the defaults for the service that the suite
was written for.
-/

namespace BusTrial

/-- The service under test. -/
structure ServiceConfig where
  /-- The bus name, which all interface names begin with. -/
  name : String := "org.freedesktop.UDisks2"
  /-- The path that all object paths begin with. -/
  pathBase : String := "/org/freedesktop/UDisks2"
  callTimeoutSeconds : Nat := 100
  deriving DecidableEq, Repr

/-- How long probes wait. -/
structure ProbeConfig where
  timeoutMillis : Nat := 5000
  intervalMillis : Nat := 500
  deriving DecidableEq, Repr

/-- A command whose output belongs to the flight record. -/
structure Monitor where
  label : String
  words : List String
  deriving DecidableEq, Repr

/-- What a flight record consists of, and where it goes. -/
structure FlightConfig where
  recordPath : FilePath := ⟨"flight_record.log"⟩
  journalLabel : String := "journal"
  /-- The outermost one first. -/
  monitors : List Monitor :=
    [⟨"udisksctl monitor", ["udisksctl", "monitor"]⟩, ⟨"udevadm monitor", ["udevadm", "monitor"]⟩]
  deriving DecidableEq, Repr

/-- How devices are wiped. -/
structure CommandsConfig where
  wipeAttempts : Nat := 10
  wipeBackoffMillis : Nat := 1000
  deriving DecidableEq, Repr

/-- What the suite needs. -/
structure SuiteConfig where
  devices : List String := []
  minDevices : Nat := 4
  /-- The variable whose presence makes failures of unstable tests fatal. -/
  unstableVariable : String := "UNSTABLE_TESTS_FATAL"
  deriving DecidableEq, Repr

/-- Where the run log goes. -/
structure LoggingConfig where
  runLogPath : Option FilePath := none
  deriving DecidableEq, Repr

/-- Everything that can be set. -/
structure Config where
  service : ServiceConfig := {}
  probe : ProbeConfig := {}
  flight : FlightConfig := {}
  commands : CommandsConfig := {}
  suite : SuiteConfig := {}
  logging : LoggingConfig := {}
  deriving DecidableEq, Repr

namespace Config

/-- The timing of probes. -/
def timing (c : Config) : Timing :=
  { timeout := .ofMillis c.probe.timeoutMillis, interval := .ofMillis c.probe.intervalMillis }

/-- How long a reply of the bus may take. -/
def callTimeout (c : Config) : Duration :=
  .ofSeconds c.service.callTimeoutSeconds

end Config

end BusTrial
