import BusTrial.Config.Patch
import BusTrial.Toml.Reader

/-!
# Configuration files

A configuration file is a TOML document with a table for each section.  `ConfigPatch.ofText?` reads it
as a layer: a key that the file does not name is left open, a key that no section has does not count,
and a value of the wrong type makes the file unreadable.

A section can also be written as an array, which gives values for all its keys in their order.  A date
in place of a section says nothing.
-/

namespace BusTrial

namespace Toml

/-- The fields of something that has these keys. -/
def fields? (keys : List String) : Toml → Option (KeyMap Toml)
  | .moment _ => some []
  | t =>
    match t.entries?, t.items? with
    | some entries, _ => some entries
    | none, some items =>
      if keys.length ≤ items.length then some (KeyMap.ofList (keys.zip items)) else none
    | none, none => none

/-- The value of a field, if it is there; it must have the right type. -/
def field? {α : Type} (fields : KeyMap Toml) (key : String) (type : Toml → Option α) :
    Option (Option α) :=
  (fields.get? key).mapM type

/-- The value of a field that must be there. -/
def required? {α : Type} (fields : KeyMap Toml) (key : String) (type : Toml → Option α) :
    Option α := do
  type (← fields.get? key)

/-- A text as a path. -/
def path? (t : Toml) : Option FilePath :=
  t.text?.map FilePath.mk

end Toml

open Toml

/-- Reads a monitor. -/
def Monitor.ofToml? (t : Toml) : Option Monitor := do
  let fields ← t.fields? ["label", "argv"]
  return { label := ← required? fields "label" text?, words := ← required? fields "argv" texts? }

/-- Reads the section on the service. -/
def ServicePatch.ofToml? (t : Toml) : Option ServicePatch := do
  let fields ← t.fields? ["name", "path_prefix", "call_timeout_seconds"]
  return { name := ← field? fields "name" text?,
           pathBase := ← field? fields "path_prefix" text?,
           callTimeoutSeconds := ← field? fields "call_timeout_seconds" (unsigned? 64) }

/-- Reads the section on probes. -/
def ProbePatch.ofToml? (t : Toml) : Option ProbePatch := do
  let fields ← t.fields? ["timeout_ms", "interval_ms"]
  return { timeoutMillis := ← field? fields "timeout_ms" (unsigned? 64),
           intervalMillis := ← field? fields "interval_ms" (unsigned? 64) }

/-- Reads the section on flight records. -/
def FlightPatch.ofToml? (t : Toml) : Option FlightPatch := do
  let fields ← t.fields? ["record_path", "journal_label", "monitors"]
  let monitors (t : Toml) : Option (List Monitor) := do
    (← t.items?).mapM Monitor.ofToml?
  return { recordPath := ← field? fields "record_path" path?,
           journalLabel := ← field? fields "journal_label" text?,
           monitors := ← field? fields "monitors" monitors }

/-- Reads the section on wiping devices. -/
def CommandsPatch.ofToml? (t : Toml) : Option CommandsPatch := do
  let fields ← t.fields? ["wipe_attempts", "wipe_backoff_ms"]
  return { wipeAttempts := ← field? fields "wipe_attempts" (unsigned? 32),
           wipeBackoffMillis := ← field? fields "wipe_backoff_ms" (unsigned? 64) }

/-- Reads the section on the suite. -/
def SuitePatch.ofToml? (t : Toml) : Option SuitePatch := do
  let fields ← t.fields? ["devices", "min_devices", "unstable_env_var"]
  return { devices := ← field? fields "devices" texts?,
           minDevices := ← field? fields "min_devices" (unsigned? 64),
           unstableVariable := ← field? fields "unstable_env_var" text? }

/-- Reads the section on the run log. -/
def LoggingPatch.ofToml? (t : Toml) : Option LoggingPatch := do
  let fields ← t.fields? ["run_log_path"]
  return { runLogPath := ← field? fields "run_log_path" path? }

/-- Reads a document. -/
def ConfigPatch.ofDocument? (document : KeyMap Toml) : Option ConfigPatch := do
  return { service := (← field? document "service" ServicePatch.ofToml?).getD {},
           probe := (← field? document "probe" ProbePatch.ofToml?).getD {},
           flight := (← field? document "flight" FlightPatch.ofToml?).getD {},
           commands := (← field? document "commands" CommandsPatch.ofToml?).getD {},
           suite := (← field? document "suite" SuitePatch.ofToml?).getD {},
           logging := (← field? document "logging" LoggingPatch.ofToml?).getD {} }

/-- Reads the text of a configuration file. -/
def ConfigPatch.ofText? (text : String) : Option ConfigPatch := do
  ofDocument? (← Toml.parse text)

end BusTrial
