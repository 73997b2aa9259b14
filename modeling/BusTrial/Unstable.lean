import BusTrial.Device.RunLog
import BusTrial.Device.Terminal
import BusTrial.Environment

/-!
# Unstable tests

A test that is known to fail now and then is run by `runUnstable`.  While its failures are not fatal,
a failure or a crash is noted on the error stream and otherwise forgiven; a test that says it does
not apply here is heard in any case.  Whether failures are fatal is up to the environment: a variable
decides by being there at all.
-/

namespace BusTrial

/-- How a run of an unstable test ends. -/
inductive UnstableOutcome where
  | passed
  /-- It failed, and that was forgiven. -/
  | softFailed (message : String)
  deriving DecidableEq, Repr

/-- What is written to the error stream for a forgiven failure. -/
def unstableMarker : String := "unstable-fail..."

/-- Failures of unstable tests are fatal. -/
def unstableFailuresFatal (env : Environment) (name : String) : Bool :=
  env.hasKey name

/-- Forgives a failure. -/
def forgive {σ : Type} [EventLog σ] [Terminal σ] (message : String) : Act σ UnstableOutcome := do
  report "warn" "suite.unstable.soft_failure" [("error", .string message)]
  Terminal.writeError unstableMarker
  return .softFailed message

/-- Runs an unstable test. -/
def runUnstable {σ : Type} [EventLog σ] [Terminal σ] (fatal : Bool) (body : Act σ Unit) :
    Act σ UnstableOutcome := do
  match ← body.attempt with
  | .done () => return .passed
  | .failed failure =>
    if failure.isSkip || fatal then throw failure else forgive failure.message
  | .crashed crash => if fatal then .crash crash else forgive crash.text

end BusTrial
