import BusTrial.Config.Basic

/-!
# Layers of a configuration

A `ConfigPatch` names some keys and gives their values.  `Config.apply` puts a patch over a
configuration: each key has the value that the patch gives it, and otherwise keeps its own, whatever
happens to the other keys.
-/

namespace BusTrial

/-- What a layer says about the service. -/
structure ServicePatch where
  name : Option String := none
  pathBase : Option String := none
  callTimeoutSeconds : Option Nat := none
  deriving DecidableEq, Repr

/-- What a layer says about probes. -/
structure ProbePatch where
  timeoutMillis : Option Nat := none
  intervalMillis : Option Nat := none
  deriving DecidableEq, Repr

/-- What a layer says about flight records. -/
structure FlightPatch where
  recordPath : Option FilePath := none
  journalLabel : Option String := none
  monitors : Option (List Monitor) := none
  deriving DecidableEq, Repr

/-- What a layer says about wiping devices. -/
structure CommandsPatch where
  wipeAttempts : Option Nat := none
  wipeBackoffMillis : Option Nat := none
  deriving DecidableEq, Repr

/-- What a layer says about the suite. -/
structure SuitePatch where
  devices : Option (List String) := none
  minDevices : Option Nat := none
  unstableVariable : Option String := none
  deriving DecidableEq, Repr

/-- What a layer says about the run log. -/
structure LoggingPatch where
  runLogPath : Option FilePath := none
  deriving DecidableEq, Repr

/-- A layer of a configuration. -/
structure ConfigPatch where
  service : ServicePatch := {}
  probe : ProbePatch := {}
  flight : FlightPatch := {}
  commands : CommandsPatch := {}
  suite : SuitePatch := {}
  logging : LoggingPatch := {}
  deriving DecidableEq, Repr

/-- Puts a layer over the section on the service. -/
def ServiceConfig.apply (p : ServicePatch) (c : ServiceConfig) : ServiceConfig where
  name := p.name.getD c.name
  pathBase := p.pathBase.getD c.pathBase
  callTimeoutSeconds := p.callTimeoutSeconds.getD c.callTimeoutSeconds

/-- Puts a layer over the section on probes. -/
def ProbeConfig.apply (p : ProbePatch) (c : ProbeConfig) : ProbeConfig where
  timeoutMillis := p.timeoutMillis.getD c.timeoutMillis
  intervalMillis := p.intervalMillis.getD c.intervalMillis

/-- Puts a layer over the section on flight records. -/
def FlightConfig.apply (p : FlightPatch) (c : FlightConfig) : FlightConfig where
  recordPath := p.recordPath.getD c.recordPath
  journalLabel := p.journalLabel.getD c.journalLabel
  monitors := p.monitors.getD c.monitors

/-- Puts a layer over the section on wiping devices. -/
def CommandsConfig.apply (p : CommandsPatch) (c : CommandsConfig) : CommandsConfig where
  wipeAttempts := p.wipeAttempts.getD c.wipeAttempts
  wipeBackoffMillis := p.wipeBackoffMillis.getD c.wipeBackoffMillis

/-- Puts a layer over the section on the suite. -/
def SuiteConfig.apply (p : SuitePatch) (c : SuiteConfig) : SuiteConfig where
  devices := p.devices.getD c.devices
  minDevices := p.minDevices.getD c.minDevices
  unstableVariable := p.unstableVariable.getD c.unstableVariable

/-- Puts a layer over the section on the run log. -/
def LoggingConfig.apply (p : LoggingPatch) (c : LoggingConfig) : LoggingConfig where
  runLogPath := p.runLogPath <|> c.runLogPath

/-- Puts a layer over a configuration. -/
def Config.apply (p : ConfigPatch) (c : Config) : Config where
  service := c.service.apply p.service
  probe := c.probe.apply p.probe
  flight := c.flight.apply p.flight
  commands := c.commands.apply p.commands
  suite := c.suite.apply p.suite
  logging := c.logging.apply p.logging

end BusTrial
