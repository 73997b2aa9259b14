import BusTrial.Bus.Link
import BusTrial.Device.Clock
import BusTrial.Probe.Timing

/-!
# Probes

A `Probe` watches one property.  Remote state settles some time after an operation, so `waitUntil`
reads the property again and again, one interval apart, until a condition holds for what was just
read or the attempts are used up.  A read that fails and a condition that fails both count as a miss.

The condition has a state `π` of its own, so it can look back at what it saw before.
-/

namespace BusTrial

/-- Watches one property of an object. -/
structure Probe where
  link : BusLink
  object : ObjectRef
  interface : String
  property : String
  timing : Timing := {}
  /-- What the last read that succeeded found. -/
  last : Option Value := none

namespace Probe

/-- The interface and the property. -/
def member (p : Probe) : String :=
  p.interface ++ "." ++ p.property

variable {σ π : Type} [Bus σ] [Processes σ] [EventLog σ]

/-- Reads the property once and keeps what it found. -/
def refresh : Act (Probe × σ) (Option Value) := fun (p, s) =>
  match p.link.getProperty p.object p.interface p.property s with
  | (.done value, s) => (.done value, { p with last := value }, s)
  | (.failed failure, s) => (.failed failure, p, s)
  | (.crashed crash, s) => (.crashed crash, p, s)

/-- Reads the property once and tests what it found. -/
def look (condition : Option Value → Act π Bool) : Act (π × Probe × σ) Bool := do
  let value ← Act.onRight refresh
  Act.onLeft (condition value)

/-- How a wait ends. -/
inductive WaitEnd where
  /-- The condition held at an attempt. -/
  | satisfied (attempt : Nat)
  /-- No attempt is left; the last failure on the way, if there was one. -/
  | exhausted (lastFailure : Option Failure)

variable [Clock σ]

/-- Sleeps one interval; that the sleep fails does not matter. -/
def pause (interval : Duration) : Act (π × Probe × σ) Unit := do
  let _ ← (Clock.sleep interval : Act (π × Probe × σ) Unit).result

/-- Makes up to `left` attempts after `made` earlier ones, with a pause after each miss. -/
def waitFrom (condition : Option Value → Act π Bool) (interval : Duration) (made : Nat)
    (lastFailure : Option Failure) : (left : Nat) → Act (π × Probe × σ) WaitEnd
  | 0 => pure (.exhausted lastFailure)
  | left + 1 => do
    match ← (look condition).result with
    | .ok true => return .satisfied (made + 1)
    | .ok false =>
      pause interval
      waitFrom condition interval (made + 1) lastFailure left
    | .error failure =>
      pause interval
      waitFrom condition interval (made + 1) (some failure) left

/-- Reports how a wait ended. -/
def reportWait (p : Probe) (timeout : Duration) : WaitEnd → Act σ Unit
  | .satisfied attempt =>
    report "debug" "probe.wait.satisfied"
      [("object", .string p.object.display), ("property", .string p.member),
        ("attempt", .int (attempt % Decimal.twoTo 64 : Nat))]
  | .exhausted lastFailure =>
    report "warn" "probe.wait.timeout"
      [("object", .string p.object.display), ("property", .string p.member),
        ("attempts", .int (p.timing.attempts timeout % Decimal.twoTo 64 : Nat)),
        ("timeout_ms", .int (timeout.wholeMillis % Decimal.twoTo 64 : Nat)),
        ("last_value", .string (Value.displayOption p.last)),
        ("last_error", (lastFailure.map fun f => Json.string f.message).getD .null)]

/-- Waits until the condition holds for what a read finds, and says whether it did in time. -/
def waitUntil (timeout : Duration) (condition : Option Value → Act π Bool) :
    Act (π × Probe × σ) Bool := do
  let probe ← Act.read fun (_, p, _) => p
  let ended ← waitFrom condition probe.timing.interval 0 none (probe.timing.attempts timeout)
  let probe ← Act.read fun (_, p, _) => p
  Act.onRight (Act.onRight (reportWait probe timeout ended))
  match ended with
  | .satisfied _ => return true
  | .exhausted _ => return false

end Probe

end BusTrial
