import BusTrial.Config.Load
import Mathlib.Tactic.Common

/-!
# The keys of a configuration

A configuration is a value for each of its keys, and a layer is a value for some of them.  `Config.Key`
lists the keys, so that what holds of all of them is said once.

* `Config.ext_keys` — a configuration has nothing else than the values of its keys;
* `value_apply` — putting a layer over a configuration, key by key;
* `Key.Named` — what a TOML document says of a key: which table holds it, under which name, and how
  its value is read;
* `ServicePatch.gives_of_ofToml?` and those for the other tables — a table that can be read gives each
  of its keys what stands under its name;
* **`named_of_ofDocument?`** — the layer that a document makes up has just the values that the document
  names.
-/

namespace BusTrial

namespace Config

/-- A key that a configuration has a value for. -/
inductive Key where
  | serviceName
  | pathBase
  | callTimeoutSeconds
  | timeoutMillis
  | intervalMillis
  | recordPath
  | journalLabel
  | monitors
  | wipeAttempts
  | wipeBackoffMillis
  | devices
  | minDevices
  | unstableVariable
  | runLogPath
  deriving DecidableEq, Repr

/-- What the values of a key are.  The path of the run log may be left open. -/
def Key.Value : Key → Type
  | .serviceName | .pathBase | .journalLabel | .unstableVariable => String
  | .callTimeoutSeconds | .timeoutMillis | .intervalMillis | .wipeAttempts | .wipeBackoffMillis
  | .minDevices => Nat
  | .recordPath => FilePath
  | .monitors => List Monitor
  | .devices => List String
  | .runLogPath => Option FilePath

/-- The value of a key. -/
def value (c : Config) : (key : Key) → key.Value
  | .serviceName => c.service.name
  | .pathBase => c.service.pathBase
  | .callTimeoutSeconds => c.service.callTimeoutSeconds
  | .timeoutMillis => c.probe.timeoutMillis
  | .intervalMillis => c.probe.intervalMillis
  | .recordPath => c.flight.recordPath
  | .journalLabel => c.flight.journalLabel
  | .monitors => c.flight.monitors
  | .wipeAttempts => c.commands.wipeAttempts
  | .wipeBackoffMillis => c.commands.wipeBackoffMillis
  | .devices => c.suite.devices
  | .minDevices => c.suite.minDevices
  | .unstableVariable => c.suite.unstableVariable
  | .runLogPath => c.logging.runLogPath

/-- Configurations with the same value for every key are the same. -/
theorem ext_keys {c c' : Config} (h : ∀ key, c.value key = c'.value key) : c = c' := by
  obtain ⟨⟨_, _, _⟩, ⟨_, _⟩, ⟨_, _, _⟩, ⟨_, _⟩, ⟨_, _, _⟩, ⟨_⟩⟩ := c
  obtain ⟨⟨_, _, _⟩, ⟨_, _⟩, ⟨_, _, _⟩, ⟨_, _⟩, ⟨_, _, _⟩, ⟨_⟩⟩ := c'
  cases h .serviceName
  cases h .pathBase
  cases h .callTimeoutSeconds
  cases h .timeoutMillis
  cases h .intervalMillis
  cases h .recordPath
  cases h .journalLabel
  cases h .monitors
  cases h .wipeAttempts
  cases h .wipeBackoffMillis
  cases h .devices
  cases h .minDevices
  cases h .unstableVariable
  cases h .runLogPath
  rfl

end Config

open Config (Key)

/-! ## Layers -/

/-- The value that a layer gives a key. -/
def ConfigPatch.value? (p : ConfigPatch) : (key : Key) → Option key.Value
  | .serviceName => p.service.name
  | .pathBase => p.service.pathBase
  | .callTimeoutSeconds => p.service.callTimeoutSeconds
  | .timeoutMillis => p.probe.timeoutMillis
  | .intervalMillis => p.probe.intervalMillis
  | .recordPath => p.flight.recordPath
  | .journalLabel => p.flight.journalLabel
  | .monitors => p.flight.monitors
  | .wipeAttempts => p.commands.wipeAttempts
  | .wipeBackoffMillis => p.commands.wipeBackoffMillis
  | .devices => p.suite.devices
  | .minDevices => p.suite.minDevices
  | .unstableVariable => p.suite.unstableVariable
  | .runLogPath => p.logging.runLogPath.map some

/-- The value that the command line gives a key: there are three that it can give one. -/
def Overrides.value? (o : Overrides) : (key : Key) → Option key.Value
  | .recordPath => o.recordPath
  | .runLogPath => o.runLogPath.map some
  | .timeoutMillis => o.timeoutMillis
  | _ => none

theorem Overrides.value?_patch (o : Overrides) (key : Key) : o.patch.value? key = o.value? key := by
  cases key <;> rfl

/-- Each key has the value that the layer gives it, and otherwise keeps its own. -/
theorem Config.value_apply (p : ConfigPatch) (c : Config) (key : Key) :
    (apply p c).value key = (p.value? key).getD (c.value key) := by
  cases key with
  | runLogPath =>
    show (p.logging.runLogPath <|> c.logging.runLogPath)
      = (p.logging.runLogPath.map some).getD c.logging.runLogPath
    cases p.logging.runLogPath <;> rfl
  | _ => rfl

/-- A path is seen from a directory; values that are no paths are the same from everywhere. -/
def Config.Key.seenFrom (directory : FilePath) : (key : Key) → key.Value → key.Value
  | .recordPath, path => FilePath.absolute directory path
  | .runLogPath, path => Option.map (FilePath.absolute directory) path
  | _, value => value

theorem Config.value_completePaths (directory : FilePath) (c : Config) (key : Key) :
    (completePaths directory c).value key = key.seenFrom directory (c.value key) := by
  cases key <;> rfl

/-! ## Documents -/

/-- The tables of a configuration file. -/
inductive Config.Section where
  | service
  | probe
  | flight
  | commands
  | suite
  | logging
  deriving DecidableEq, Repr

namespace Config

/-- What a table is called in a file. -/
def Section.name : Section → String
  | .service => "service"
  | .probe => "probe"
  | .flight => "flight"
  | .commands => "commands"
  | .suite => "suite"
  | .logging => "logging"

/-- The names of the keys in a table, in their order. -/
def Section.keys : Section → List String
  | .service => ["name", "path_prefix", "call_timeout_seconds"]
  | .probe => ["timeout_ms", "interval_ms"]
  | .flight => ["record_path", "journal_label", "monitors"]
  | .commands => ["wipe_attempts", "wipe_backoff_ms"]
  | .suite => ["devices", "min_devices", "unstable_env_var"]
  | .logging => ["run_log_path"]

namespace Key

open Toml

/-- The table that holds the key. -/
def home : Key → Section
  | .serviceName | .pathBase | .callTimeoutSeconds => .service
  | .timeoutMillis | .intervalMillis => .probe
  | .recordPath | .journalLabel | .monitors => .flight
  | .wipeAttempts | .wipeBackoffMillis => .commands
  | .devices | .minDevices | .unstableVariable => .suite
  | .runLogPath => .logging

/-- What the key is called in its table. -/
def name : Key → String
  | .serviceName => "name"
  | .pathBase => "path_prefix"
  | .callTimeoutSeconds => "call_timeout_seconds"
  | .timeoutMillis => "timeout_ms"
  | .intervalMillis => "interval_ms"
  | .recordPath => "record_path"
  | .journalLabel => "journal_label"
  | .monitors => "monitors"
  | .wipeAttempts => "wipe_attempts"
  | .wipeBackoffMillis => "wipe_backoff_ms"
  | .devices => "devices"
  | .minDevices => "min_devices"
  | .unstableVariable => "unstable_env_var"
  | .runLogPath => "run_log_path"

/-- Reads a value of the key. -/
def read? : (key : Key) → Toml → Option key.Value
  | .serviceName | .pathBase | .journalLabel | .unstableVariable => Toml.text?
  | .callTimeoutSeconds | .timeoutMillis | .intervalMillis | .wipeBackoffMillis | .minDevices =>
    Toml.unsigned? 64
  | .wipeAttempts => Toml.unsigned? 32
  | .recordPath => Toml.path?
  | .monitors => fun t => t.items?.bind fun items => items.mapM Monitor.ofToml?
  | .devices => Toml.texts?
  | .runLogPath => fun t => t.path?.map some

/-- What stands under the name of the key in its table. -/
def entry? (key : Key) (document : KeyMap Toml) : Option Toml := do
  let table ← document.get? key.home.name
  let fields ← table.fields? key.home.keys
  fields.get? key.name

/-- What a document says of a key: the value that stands under its name, or nothing if nothing
stands there. -/
inductive Named (document : KeyMap Toml) (key : Key) : Option key.Value → Prop
  | nothing (absent : key.entry? document = none) : Named document key none
  | value {entry : Toml} {value : key.Value} (found : key.entry? document = some entry)
      (read : key.read? entry = some value) : Named document key (some value)

/-- Read as the table of the key, `t` says this of it. -/
def Gives (key : Key) (t : Toml) (found : Option key.Value) : Prop :=
  ∃ fields, t.fields? key.home.keys = some fields ∧ field? fields key.name key.read? = some found

end Key

end Config

/-! ### Tables

A table is read field by field, so that the layer it makes up is what it gives each of its keys. -/

section

open Toml

variable {t : Toml}

theorem ServicePatch.gives_of_ofToml? {p : ServicePatch} (h : ofToml? t = some p) :
    Key.serviceName.Gives t p.name ∧ Key.pathBase.Gives t p.pathBase ∧
      Key.callTimeoutSeconds.Gives t p.callTimeoutSeconds := by
  simp only [ofToml?, Option.bind_eq_bind, Option.bind_eq_some_iff, Option.pure_def,
    Option.some.injEq] at h
  obtain ⟨fields, hfields, _, hname, _, hpath, _, htimeout, rfl⟩ := h
  exact ⟨⟨fields, hfields, hname⟩, ⟨fields, hfields, hpath⟩, ⟨fields, hfields, htimeout⟩⟩

theorem ProbePatch.gives_of_ofToml? {p : ProbePatch} (h : ofToml? t = some p) :
    Key.timeoutMillis.Gives t p.timeoutMillis ∧ Key.intervalMillis.Gives t p.intervalMillis := by
  simp only [ofToml?, Option.bind_eq_bind, Option.bind_eq_some_iff, Option.pure_def,
    Option.some.injEq] at h
  obtain ⟨fields, hfields, _, htimeout, _, hinterval, rfl⟩ := h
  exact ⟨⟨fields, hfields, htimeout⟩, ⟨fields, hfields, hinterval⟩⟩

theorem FlightPatch.gives_of_ofToml? {p : FlightPatch} (h : ofToml? t = some p) :
    Key.recordPath.Gives t p.recordPath ∧ Key.journalLabel.Gives t p.journalLabel ∧
      Key.monitors.Gives t p.monitors := by
  simp only [ofToml?, Option.bind_eq_bind, Option.bind_eq_some_iff, Option.pure_def,
    Option.some.injEq] at h
  obtain ⟨fields, hfields, _, hpath, _, hlabel, _, hmonitors, rfl⟩ := h
  exact ⟨⟨fields, hfields, hpath⟩, ⟨fields, hfields, hlabel⟩, ⟨fields, hfields, hmonitors⟩⟩

theorem CommandsPatch.gives_of_ofToml? {p : CommandsPatch} (h : ofToml? t = some p) :
    Key.wipeAttempts.Gives t p.wipeAttempts ∧
      Key.wipeBackoffMillis.Gives t p.wipeBackoffMillis := by
  simp only [ofToml?, Option.bind_eq_bind, Option.bind_eq_some_iff, Option.pure_def,
    Option.some.injEq] at h
  obtain ⟨fields, hfields, _, hattempts, _, hbackoff, rfl⟩ := h
  exact ⟨⟨fields, hfields, hattempts⟩, ⟨fields, hfields, hbackoff⟩⟩

theorem SuitePatch.gives_of_ofToml? {p : SuitePatch} (h : ofToml? t = some p) :
    Key.devices.Gives t p.devices ∧ Key.minDevices.Gives t p.minDevices ∧
      Key.unstableVariable.Gives t p.unstableVariable := by
  simp only [ofToml?, Option.bind_eq_bind, Option.bind_eq_some_iff, Option.pure_def,
    Option.some.injEq] at h
  obtain ⟨fields, hfields, _, hdevices, _, hminimum, _, hvariable, rfl⟩ := h
  exact ⟨⟨fields, hfields, hdevices⟩, ⟨fields, hfields, hminimum⟩, ⟨fields, hfields, hvariable⟩⟩

/-- The path is read as that of a log which may be left out. -/
theorem LoggingPatch.gives_of_ofToml? {p : LoggingPatch} (h : ofToml? t = some p) :
    Key.runLogPath.Gives t (p.runLogPath.map some) := by
  simp only [ofToml?, Option.bind_eq_bind, Option.bind_eq_some_iff, Option.pure_def,
    Option.some.injEq] at h
  obtain ⟨fields, hfields, _, hpath, rfl⟩ := h
  refine ⟨fields, hfields, ?_⟩
  show field? fields "run_log_path" (fun t => t.path?.map some) = _
  rw [field?] at hpath ⊢
  cases hentry : fields.get? "run_log_path" with
  | none =>
    rw [hentry] at hpath
    cases hpath
    rfl
  | some entry =>
    rw [hentry, Option.mapM_some] at hpath
    obtain ⟨path, hread, rfl⟩ := Option.map_eq_some_iff.1 hpath
    rw [Option.mapM_some, hread]
    rfl

end

namespace Config

open Toml (field?)

/-- What a table gives a key is what stands there under its name. -/
theorem Key.Gives.named {document : KeyMap Toml} {key : Key} {t : Toml} {found : Option key.Value}
    (gives : key.Gives t found) (there : document.get? key.home.name = some t) :
    key.Named document found := by
  obtain ⟨fields, hopen, hfield⟩ := gives
  have hentry : key.entry? document = fields.get? key.name := by simp [Key.entry?, there, hopen]
  rw [field?] at hfield
  cases hfound : fields.get? key.name with
  | none =>
    rw [hfound] at hfield
    cases hfield
    exact .nothing (hentry.trans hfound)
  | some entry =>
    rw [hfound, Option.mapM_some] at hfield
    obtain ⟨value, hread, rfl⟩ := Option.map_eq_some_iff.1 hfield
    exact .value (hentry.trans hfound) hread

/-- A document says of a key what its table gives it, and nothing if it does not have that table. -/
theorem Key.named_of_field? {π : Type} {document : KeyMap Toml} (key : Key)
    (pick : π → Option key.Value) {ofToml? : Toml → Option π} {blank : π} {found : Option π}
    (read : field? document key.home.name ofToml? = some found)
    (gives : ∀ {t p}, ofToml? t = some p → key.Gives t (pick p)) (hblank : pick blank = none) :
    key.Named document (pick (found.getD blank)) := by
  cases hentry : document.get? key.home.name with
  | none =>
    rw [field?, hentry] at read
    cases read
    rw [Option.getD_none, hblank]
    exact .nothing (by simp [Key.entry?, hentry])
  | some t =>
    rw [field?, hentry, Option.mapM_some] at read
    obtain ⟨p, hp, rfl⟩ := Option.map_eq_some_iff.1 read
    exact (gives hp).named hentry

/-- **The layer that a document makes up has the values that the document names**, and no others. -/
theorem named_of_ofDocument? {document : KeyMap Toml} {file : ConfigPatch}
    (h : ConfigPatch.ofDocument? document = some file) (key : Key) :
    key.Named document (file.value? key) := by
  simp only [ConfigPatch.ofDocument?, Option.bind_eq_bind, Option.bind_eq_some_iff,
    Option.pure_def, Option.some.injEq] at h
  obtain ⟨_, hservice, _, hprobe, _, hflight, _, hcommands, _, hsuite, _, hlogging, rfl⟩ := h
  cases key with
  | serviceName =>
    exact Key.named_of_field? .serviceName ServicePatch.name hservice
      (fun hp => (ServicePatch.gives_of_ofToml? hp).1) rfl
  | pathBase =>
    exact Key.named_of_field? .pathBase ServicePatch.pathBase hservice
      (fun hp => (ServicePatch.gives_of_ofToml? hp).2.1) rfl
  | callTimeoutSeconds =>
    exact Key.named_of_field? .callTimeoutSeconds ServicePatch.callTimeoutSeconds hservice
      (fun hp => (ServicePatch.gives_of_ofToml? hp).2.2) rfl
  | timeoutMillis =>
    exact Key.named_of_field? .timeoutMillis ProbePatch.timeoutMillis hprobe
      (fun hp => (ProbePatch.gives_of_ofToml? hp).1) rfl
  | intervalMillis =>
    exact Key.named_of_field? .intervalMillis ProbePatch.intervalMillis hprobe
      (fun hp => (ProbePatch.gives_of_ofToml? hp).2) rfl
  | recordPath =>
    exact Key.named_of_field? .recordPath FlightPatch.recordPath hflight
      (fun hp => (FlightPatch.gives_of_ofToml? hp).1) rfl
  | journalLabel =>
    exact Key.named_of_field? .journalLabel FlightPatch.journalLabel hflight
      (fun hp => (FlightPatch.gives_of_ofToml? hp).2.1) rfl
  | monitors =>
    exact Key.named_of_field? .monitors FlightPatch.monitors hflight
      (fun hp => (FlightPatch.gives_of_ofToml? hp).2.2) rfl
  | wipeAttempts =>
    exact Key.named_of_field? .wipeAttempts CommandsPatch.wipeAttempts hcommands
      (fun hp => (CommandsPatch.gives_of_ofToml? hp).1) rfl
  | wipeBackoffMillis =>
    exact Key.named_of_field? .wipeBackoffMillis CommandsPatch.wipeBackoffMillis hcommands
      (fun hp => (CommandsPatch.gives_of_ofToml? hp).2) rfl
  | devices =>
    exact Key.named_of_field? .devices SuitePatch.devices hsuite
      (fun hp => (SuitePatch.gives_of_ofToml? hp).1) rfl
  | minDevices =>
    exact Key.named_of_field? .minDevices SuitePatch.minDevices hsuite
      (fun hp => (SuitePatch.gives_of_ofToml? hp).2.1) rfl
  | unstableVariable =>
    exact Key.named_of_field? .unstableVariable SuitePatch.unstableVariable hsuite
      (fun hp => (SuitePatch.gives_of_ofToml? hp).2.2) rfl
  | runLogPath =>
    refine Key.named_of_field? .runLogPath (fun p => p.runLogPath.map some) hlogging
      LoggingPatch.gives_of_ofToml? ?_
    rfl

end Config

end BusTrial
