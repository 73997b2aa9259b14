import BusTrial.Bus.Link

/-!
# The distribution that a suite runs on

The host says in a CPE name (`cpe:/o:project:name:version`) what it runs.  Some tests do not apply to
some distributions: `skipReason` says so, and `skipOn` turns that into a failure that counts as a skip.
-/

namespace BusTrial

/-- What a host runs. -/
structure Distro where
  project : String := ""
  name : String := ""
  version : String := ""
  deriving DecidableEq, Repr

namespace Distro

/-- The third to fifth part of a CPE name; missing parts are empty. -/
def ofCpe (cpe : String) : Distro :=
  let parts := (cpe.toList.splitOn ':').map String.ofList
  { project := parts.getD 2 "", name := parts.getD 3 "", version := parts.getD 4 "" }

/-- Why a test is skipped that does not apply to some distributions, or to one version of them if a
version is given. -/
def skipReason (d : Distro) (names : List String) (version reason : String) : Option String :=
  if names.contains d.name && (version == "" || version == d.version) then
    let message := "not supported on this distribution in this version"
    some (if reason == "" then message else message ++ ": " ++ reason)
  else none

/-- Fails where the test is skipped. -/
def skipOn (d : Distro) (names : List String) (version reason : String) : Except Failure Unit :=
  match d.skipReason names version reason with
  | some message => .error (.plain .skipped message)
  | none => .ok ()

/-- The service that describes the host; its object and its interface are named alike. -/
def hostService : String := "org.freedesktop.hostname1"

/-- The object that describes the host. -/
def hostObject : ObjectRef := ⟨hostService, "/org/freedesktop/hostname1"⟩

/-- The property that holds the CPE name. -/
def hostProperty : String := "OperatingSystemCPEName"

/-- Asks the host what it runs. -/
def read {σ : Type} [Bus σ] [Processes σ] [EventLog σ] (link : BusLink) : Act σ Distro := do
  match ← (link.getProperty hostObject hostService hostProperty : Act σ (Option Value)) with
  | some cpe => return ofCpe cpe.display
  | none => throw (.bus (hostObject.display ++ " has no " ++ hostProperty))

end Distro

end BusTrial
