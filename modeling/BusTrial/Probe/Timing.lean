import BusTrial.Time.Basic

/-!
# When a probe looks

A `Timing` says how often a property is read while waiting for it: `attempts` is the number of whole
intervals in the time allowed.
-/

namespace BusTrial

/-- How long to wait for a property, and how long between two reads. -/
structure Timing where
  timeout : Duration := .ofSeconds 5
  interval : Duration := .ofMillis 500
  deriving DecidableEq, Repr

/-- The number of reads within a time; without an interval there is one. -/
def Timing.attempts (t : Timing) (timeout : Duration) : Nat :=
  if t.interval.nanos = 0 then 1 else timeout.nanos / t.interval.nanos

end BusTrial
